import PromiseDetection.Disk.Path
import PromiseDetection.Text.Blank

/-!
Lists of file extensions.
-/

namespace PromiseDetection.Extensions

def standard : String := "ts,tsx,js,jsx,mts,cts,mjs,cjs"

/-- An extension without blanks around it, without the dots before it, and in lower case. -/
def normal (written : String) : String :=
  Text.asciiLower
    (String.ofList ((Text.strip Text.isBlank written.toList).dropWhile (· = '.')))

/-- Reads a list of extensions with commas between them. Empty ones do not count. -/
def parse (list : String) : List String :=
  ((Text.fields ',' list).map normal).filter fun extension => !extension.isEmpty

def admits (extensions : List String) (path : Path) : Bool :=
  path.extension?.any fun extension =>
    extensions.any fun admitted => Text.asciiLower admitted == Text.asciiLower extension

end PromiseDetection.Extensions

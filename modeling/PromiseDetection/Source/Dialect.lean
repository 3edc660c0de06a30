import PromiseDetection.Disk.Path

/-!
The two dialects of source text and the file extensions that choose between them.
-/

namespace PromiseDetection

inductive Dialect where
  /-- TypeScript without markup. -/
  | typeScript
  /-- TypeScript with markup, which also reads JavaScript. -/
  | tsx
  deriving DecidableEq, Repr, Inhabited

namespace Dialect

def ofExtension? (extension : String) : Option Dialect :=
  match Text.asciiLower extension with
  | "ts" | "mts" | "cts" => some .typeScript
  | "tsx" | "js" | "jsx" | "mjs" | "cjs" => some .tsx
  | _ => none

def ofPath? (path : Path) : Option Dialect := path.extension?.bind ofExtension?

/-- The dialect of a text that may have no file or an unusual one: TypeScript unless the file says
otherwise. -/
def ofUnit (path? : Option Path) : Dialect := (path?.bind ofPath?).getD .typeScript

end Dialect

end PromiseDetection

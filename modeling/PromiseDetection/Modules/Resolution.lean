import PromiseDetection.Disk.FileSystem
import PromiseDetection.Source.Dialect

/-!
Finding the file that a relative import names.
-/

namespace PromiseDetection.Modules

def probedExtensions : List String :=
  ["ts", "tsx", "d.ts", "js", "jsx", "mts", "mjs", "cts", "cjs"]

def directoryFiles : List String := ["index.ts", "index.tsx", "index.js", "index.jsx"]

/-- The source extensions that an import of a compiled file may mean instead. -/
def sourceTwins : Option String → List String
  | some "js" | some "jsx" => ["ts", "tsx"]
  | some "mjs" => ["mts"]
  | some "cjs" => ["cts"]
  | _ => []

/-- The paths that a specifier may mean inside a directory, the preferred one first. -/
def candidates (directory : Path) (specifier : String) : List Path :=
  let base := directory.join ⟨specifier⟩
  let written :=
    if (Dialect.ofPath? base).isSome then
      base :: (sourceTwins base.extension?).map base.withExtension
    else []
  written ++ probedExtensions.map (fun extension => ⟨base.text ++ "." ++ extension⟩) ++
    directoryFiles.map (fun index => base.join ⟨index⟩)

def resolve? (disk : FileSystem) (directory : Path) (specifier : String) : Option Path :=
  ((candidates directory specifier).find? disk.isFile).map disk.canonical

end PromiseDetection.Modules

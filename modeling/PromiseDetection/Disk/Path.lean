import PromiseDetection.Text.Fields

/-!
Paths as they are written, and the parts they consist of.

Two spellings of a path are the same path when they have the same parts: empty parts do not count,
and a single dot counts only at the very beginning of a relative path.
-/

namespace PromiseDetection

inductive PathPart where
  /-- The slash at the beginning of an absolute path. -/
  | root
  /-- A single dot at the beginning of a relative path. -/
  | here
  /-- Two dots. -/
  | up
  | name (text : String)
  deriving DecidableEq, Repr

namespace PathPart

def rank : PathPart → Nat
  | .root => 0
  | .here => 1
  | .up => 2
  | .name _ => 3

def text : PathPart → String
  | .root => "/"
  | .here => "."
  | .up => ".."
  | .name text => text

/-- Parts are ordered by their sort, and names by their bytes. -/
def before (first second : PathPart) : Bool :=
  match first, second with
  | .name one, .name other => one < other
  | one, other => one.rank < other.rank

def listBefore : List PathPart → List PathPart → Bool
  | _, [] => false
  | [], _ :: _ => true
  | one :: rest, other :: others =>
    if one = other then listBefore rest others else one.before other

end PathPart

structure Path where
  text : String
  deriving DecidableEq, Repr, Inhabited

namespace Path

def isAbsolute (path : Path) : Bool := Text.startsWith path.text "/"

def partOf : String → List PathPart
  | "" | "." => []
  | ".." => [.up]
  | text => [.name text]

def parts (path : Path) : List PathPart :=
  let pieces := Text.fields '/' path.text
  let opening :=
    if path.isAbsolute then [PathPart.root]
    else if pieces.head? = some "." then [PathPart.here]
    else []
  opening ++ pieces.flatMap partOf

def ofParts : List PathPart → Path
  | .root :: rest => ⟨"/" ++ String.intercalate "/" (rest.map PathPart.text)⟩
  | parts => ⟨String.intercalate "/" (parts.map PathPart.text)⟩

def ofNames (names : List String) : Path := ofParts (.root :: names.map PathPart.name)

def same (first second : Path) : Bool := first.parts = second.parts

def before (first second : Path) : Bool := PathPart.listBefore first.parts second.parts

def fileName? (path : Path) : Option String :=
  match path.parts.getLast? with
  | some (.name text) => some text
  | _ => none

/-- A file name before and after its last dot, unless that dot is its first character. -/
def splitName (name : String) : String × Option String :=
  let reversed := name.toList.reverse
  let ending := reversed.takeWhile (· ≠ '.')
  match reversed.dropWhile (· ≠ '.') with
  | _dot :: stem@(_ :: _) => (String.ofList stem.reverse, some (String.ofList ending.reverse))
  | _ => (name, none)

def extension? (path : Path) : Option String :=
  path.fileName?.bind fun name => (splitName name).2

def parent? (path : Path) : Option Path :=
  match path.parts.getLast? with
  | none | some .root => none
  | some _ => some (ofParts path.parts.dropLast)

/-- The path that a second path means inside a first one. -/
def join (path inner : Path) : Path :=
  if inner.isAbsolute || path.text.isEmpty then inner
  else if path.text.toList.getLast? = some '/' then ⟨path.text ++ inner.text⟩
  else ⟨path.text ++ "/" ++ inner.text⟩

def withExtension (path : Path) (extension : String) : Path :=
  match path.fileName? with
  | none => path
  | some name =>
    ofParts (path.parts.dropLast ++ [.name ((splitName name).1 ++ "." ++ extension)])

/-- Adds a path to an ordered list that holds every path in one spelling, the first it met. -/
def insertInto (path : Path) : List Path → List Path
  | [] => [path]
  | head :: rest =>
    if path.same head then head :: rest
    else if path.before head then path :: head :: rest
    else head :: insertInto path rest

end Path

end PromiseDetection

import PromiseDetection.Text.Blank
import PromiseDetection.Text.Fields
import PromiseDetection.Text.Lines

/-!
Rules that say which files to pass over, one to a line of an ignore file.

A rule is about paths below the directory of its file. A rule with a slash that is not its last
character is about the whole path; any other rule is about the last name of it. A star stands for
any part of a name, a question mark for one character, and two stars between slashes for any number
of directories. A rule that begins with an exclamation mark takes back what earlier rules said, and
one that ends with a slash is about directories only.
-/

namespace PromiseDetection

inductive NamePiece where
  | literal (character : Char)
  | anyCharacter
  | anyText
  deriving DecidableEq, Repr

inductive PathPiece where
  | name (pieces : List NamePiece)
  | anyDirectories
  deriving DecidableEq, Repr

def endings {α : Type} : List α → List (List α)
  | [] => [[]]
  | item :: rest => (item :: rest) :: endings rest

def NamePiece.matchAll : List NamePiece → List Char → Bool
  | [], characters => characters.isEmpty
  | .literal expected :: pieces, characters =>
    match characters with
    | [] => false
    | character :: rest => character == expected && matchAll pieces rest
  | .anyCharacter :: pieces, characters =>
    match characters with
    | [] => false
    | _ :: rest => matchAll pieces rest
  | .anyText :: pieces, characters => (endings characters).any (matchAll pieces)

def PathPiece.matchAll : List PathPiece → List String → Bool
  | [], names => names.isEmpty
  | .name pieces :: rest, names =>
    match names with
    | [] => false
    | first :: later => NamePiece.matchAll pieces first.toList && matchAll rest later
  | .anyDirectories :: rest, names => (endings names).any (matchAll rest)

structure IgnoreRule where
  path : List PathPiece
  /-- Is the rule about directories only? -/
  onlyDirectories : Bool
  /-- Does the rule take back what earlier rules said? -/
  takesBack : Bool
  deriving DecidableEq, Repr

inductive Verdict where
  | passOver
  | keep
  deriving DecidableEq, Repr

namespace IgnoreRule

/-- The pieces of a written name, if no backslash is left open at its end. -/
def namePieces? : List Char → Option (List NamePiece)
  | [] => some []
  | ['\\'] => none
  | '\\' :: character :: rest => (namePieces? rest).map (.literal character :: ·)
  | '*' :: rest => (namePieces? rest).map (.anyText :: ·)
  | '?' :: rest => (namePieces? rest).map (.anyCharacter :: ·)
  | character :: rest => (namePieces? rest).map (.literal character :: ·)

def pathPiece? (written : List Char) : Option PathPiece :=
  if written = ['*', '*'] then some .anyDirectories
  else (namePieces? written).map .name

/-- A line without the blanks at its end, unless a backslash keeps the last one. -/
def trimEnd (line : List Char) : List Char :=
  if ['\\', ' '].isSuffixOf line then line
  else (line.reverse.dropWhile Text.isBlank).reverse

def takeMark (mark : Char) (line : List Char) : Bool × List Char :=
  match line with
  | first :: rest => if first = mark then (true, rest) else (false, line)
  | [] => (false, [])

def takeLastSlash (line : List Char) : Bool × List Char :=
  match line.reverse with
  | '/' :: '\\' :: rest => (true, rest.reverse)
  | '/' :: rest => (true, rest.reverse)
  | _ => (false, line)

/-- The pieces of a written path. A path that ends in two stars is about what lies in the directory
before them. -/
def pathPieces? (isWhole : Bool) (written : List Char) : Option (List PathPiece) := do
  let fields := Text.splitAt '/' written
  let pieces ← fields.mapM pathPiece?
  let pieces := if isWhole ∨ 1 < fields.length then pieces else .anyDirectories :: pieces
  return if 1 < fields.length ∧ pieces.getLast? = some .anyDirectories then
    pieces ++ [.name [.anyText]] else pieces

def ofWritten? (line : List Char) : Option IgnoreRule := do
  let (takesBack, isWhole, written) :=
    match line with
    | '\\' :: '!' :: rest => (false, false, '!' :: rest)
    | '\\' :: '#' :: rest => (false, false, '#' :: rest)
    | _ =>
      let (takesBack, rest) := takeMark '!' line
      let (isWhole, rest) := takeMark '/' rest
      (takesBack, isWhole, rest)
  let (onlyDirectories, written) := takeLastSlash written
  let path ← pathPieces? isWhole written
  return { path, onlyDirectories, takesBack }

/-- The rule of a line. Comments, empty lines and broken lines hold none. -/
def ofLine? (line : String) : Option IgnoreRule :=
  let characters := line.toList
  if characters.head? = some '#' then none
  else
    let characters := trimEnd characters
    if characters.isEmpty then none else ofWritten? characters

def isAbout (rule : IgnoreRule) (names : List String) (isDirectory : Bool) : Bool :=
  (isDirectory || !rule.onlyDirectories) && PathPiece.matchAll rule.path names

def byteOrderMark : Char := '\uFEFF'

def dropMarks (line : String) : String :=
  String.ofList (line.toList.dropWhile (· = byteOrderMark))

def readableLines (bytes : ByteArray) : List String :=
  match ((Text.lines bytes).takeWhile Option.isSome).filterMap id with
  | [] => []
  | first :: rest => dropMarks first :: rest

def ofFile (bytes : ByteArray) : List IgnoreRule :=
  (readableLines bytes).filterMap ofLine?

end IgnoreRule

/-- What the rules of one file say about a path. The last rule about it decides. -/
def verdict? (rules : List IgnoreRule) (names : List String) (isDirectory : Bool) :
    Option Verdict :=
  (rules.reverse.find? fun rule => rule.isAbout names isDirectory).map fun rule =>
    if rule.takesBack then .keep else .passOver

end PromiseDetection

import PromiseDetection.Code.Shape
import PromiseDetection.Text.Blank
import PromiseDetection.Text.Slice

/-!
A text together with its syntax tree, and the names that nodes carry.
-/

namespace PromiseDetection

structure Document where
  text : String
  tree : Tree
  deriving Inhabited

namespace Document

def textOf (document : Document) (position : Nat) : String :=
  Text.slice document.text (document.tree.start position) (document.tree.stop position)

/-- The name of a class, or the variable that a class expression is the value of. -/
def nameOfClass? (document : Document) (position : Nat) : Option String :=
  let tree := document.tree
  match tree.childWith? position .name with
  | some name => some (document.textOf name)
  | none => do
    let parent ← tree.parent? position
    if tree.kind parent = .variableDeclarator ∧ tree.holds parent .value position then
      let name ← tree.childWith? parent .name
      if tree.kind name = .identifier then some (document.textOf name) else none
    else none

def isQuote (character : Char) : Bool :=
  character == '\x22' || character == '\x27' || character == '\x60'

def unquoted (text : String) : String :=
  String.ofList (Text.strip isQuote text.toList)

/-- The value of a string literal: its first fragment, or nothing but the text between the quotes
where there is no fragment. -/
def literalText (document : Document) (position : Nat) : String :=
  match document.tree.childOfKind? position .stringFragment with
  | some fragment => document.textOf fragment
  | none => unquoted (document.textOf position)

def writtenKey? (document : Document) (key : Nat) : Option String :=
  match document.tree.kind key with
  | .propertyIdentifier | .privatePropertyIdentifier | .identifier | .numberLiteral =>
    some (document.textOf key)
  | .stringLiteral => some (document.literalText key)
  | _ => none

def keyIn? (document : Document) (member : Nat) (role : Field) : Option String :=
  (document.tree.childWith? member role).bind document.writtenKey?

/-- A string literal stands for its value and every other name for its text. -/
def nameOrValue (document : Document) (position : Nat) : String :=
  if document.tree.kind position = .stringLiteral then document.literalText position
  else document.textOf position

end Document

end PromiseDetection

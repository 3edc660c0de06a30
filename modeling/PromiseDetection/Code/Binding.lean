import PromiseDetection.Code.Shape

/-!
The names under which functions are defined and called.
-/

namespace PromiseDetection

inductive BinderKind where
  | variable
  /-- A property of an object literal. -/
  | property
  | field
  /-- A member of some object, by an assignment. -/
  | member
  deriving DecidableEq, Repr

/-- The place that takes the value of a function expression, and the name it has there. -/
structure Binder where
  kind : BinderKind
  node : Nat
  name? : Option Nat
  deriving DecidableEq, Repr

namespace Tree

/-- Wrappers around an expression that do not change where its value goes. -/
def isTransparent (kind : Kind) : Bool :=
  match kind with
  | .parenthesized | .asExpression | .satisfiesExpression | .nonNull => true
  | _ => false

/-- The outermost wrapped form of an expression, and the parent of that form. -/
def wrapped? (tree : Tree) (child : Nat) : Option (Nat × Nat) :=
  match _found : tree.parent? child with
  | none => none
  | some parent =>
    if isTransparent (tree.kind parent) then wrapped? tree parent else some (child, parent)
termination_by child
decreasing_by exact parent?_lt _found

/-- A name that is written down and not computed. -/
def isPlainKey (tree : Tree) (key : Nat) : Bool := tree.kind key ≠ .computedPropertyName

/-- The declaration, property, field or assignment that binds an expression to a name. -/
def binder? (tree : Tree) (expression : Nat) : Option Binder := do
  let (child, parent) ← tree.wrapped? expression
  match tree.kind parent with
  | .variableDeclarator =>
    if tree.holds parent .value child then
      some
        { kind := .variable, node := parent
          name? := (tree.childWith? parent .name).filter fun name =>
            tree.kind name = .identifier }
    else none
  | .pair =>
    if tree.holds parent .value child then
      some
        { kind := .property, node := parent
          name? := (tree.childWith? parent .key).filter tree.isPlainKey }
    else none
  | .publicFieldDefinition | .fieldDefinition =>
    if tree.holds parent .value child then
      some
        { kind := .field, node := parent
          name? := ((tree.childWith? parent .name).or
            (tree.childWith? parent .property)).filter tree.isPlainKey }
    else none
  | .assignment =>
    if tree.holds parent .right child then do
      let left ← tree.childWith? parent .left
      match tree.kind left with
      | .identifier => some { kind := .variable, node := parent, name? := some left }
      | .memberExpression =>
        some
          { kind := .member, node := parent
            name? := tree.childWith? left .property }
      | _ => none
    else none
  | _ => none

def nameOfFunction? (tree : Tree) (function : Nat) : Option Nat :=
  match tree.kind function with
  | .functionDeclaration | .generatorDeclaration => tree.childWith? function .name
  | .methodDefinition => (tree.childWith? function .name).filter tree.isPlainKey
  | _ =>
    ((tree.binder? function).bind (·.name?)).or (tree.childWith? function .name)

/-- The name node of what a call calls: an identifier or the property of a member access. -/
def nameOfCall? (tree : Tree) (call : Nat) : Option Nat := do
  let callee ← tree.childWith? call .callee
  match tree.kind callee with
  | .identifier => some callee
  | .memberExpression =>
    (tree.childWith? callee .property).filter fun property =>
      tree.kind property = .propertyIdentifier ∨
        tree.kind property = .privatePropertyIdentifier
  | _ => none

end Tree

end PromiseDetection

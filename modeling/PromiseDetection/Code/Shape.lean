import PromiseDetection.Tree.Basic

/-!
What the shape of a tree says about functions, classes and expressions, without reading any text.

Kinds are compared by name alone unless a rule says otherwise, so the keyword `class` counts as
class-like although it is only a token of the class around it.
-/

namespace PromiseDetection.Tree

/-- Nodes whose body has `return` statements of its own. The word `function` names such a node only
where the grammar makes it a node and not a token. -/
def isFunction (tree : Tree) (position : Nat) : Bool :=
  match tree.kind position with
  | .functionDeclaration | .generatorDeclaration | .functionExpression | .generatorExpression
  | .arrowFunction | .methodDefinition => true
  | .functionWord => tree.isNamed position
  | _ => false

def isClass (tree : Tree) (position : Nat) : Bool :=
  match tree.kind position with
  | .classDeclaration | .abstractClassDeclaration | .classExpression => true
  | _ => false

/-- Functions that give `this` a value of their own and belong to no class. -/
def hasOwnThis (tree : Tree) (position : Nat) : Bool :=
  tree.isFunction position && tree.kind position ≠ .arrowFunction &&
    tree.kind position ≠ .methodDefinition

def holds (tree : Tree) (parent : Nat) (role : Field) (child : Nat) : Bool :=
  tree.childWith? parent role = some child

/-- The expression inside parentheses and non-null assertions. -/
def unwrap (tree : Tree) (position : Nat) : Nat :=
  match tree.kind position with
  | .parenthesized | .nonNull =>
    match _found : tree.firstOperand? position with
    | some inner => unwrap tree inner
    | none => position
  | _ => position
termination_by tree.size - position
decreasing_by exact remaining_lt_of_mem_children (mem_children_of_firstOperand? _found)

def isAsync (tree : Tree) (position : Nat) : Bool :=
  (tree.childOfKind? position .asyncWord).isSome

/-- Generators are known by their kind or by a star among their children. -/
def isGenerator (tree : Tree) (position : Nat) : Bool :=
  match tree.kind position with
  | .generatorDeclaration | .generatorExpression => true
  | _ => (tree.childOfKind? position .star).isSome

/-- The class whose instance `this` is at a node, if any: the nearest class around it, unless a
function that rebinds `this` comes first. -/
def thisClass? (tree : Tree) (position : Nat) : Option Nat :=
  match _found : tree.parent? position with
  | none => none
  | some parent =>
    if tree.isClass parent then some parent
    else if tree.hasOwnThis parent then none
    else thisClass? tree parent
termination_by position
decreasing_by exact parent?_lt _found

end PromiseDetection.Tree

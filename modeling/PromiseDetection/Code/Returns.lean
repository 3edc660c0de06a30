import PromiseDetection.Code.Shape

/-!
The values a function returns from its own body.
-/

namespace PromiseDetection.Tree

/-- Nodes that begin a scope of `return` statements of their own, or hold methods that do. -/
def beginsReturnScope (tree : Tree) (position : Nat) : Bool :=
  tree.isFunction position || tree.isClass position

/-- The values of the `return` statements below a node that belong to the same function, in
document order. -/
def returnsBelow (tree : Tree) (position : Nat) : List Nat :=
  (tree.children position).attach.flatMap fun ⟨child, _membership⟩ =>
    if tree.beginsReturnScope child then []
    else if tree.kind child = .returnStatement then (tree.firstOperand? child).toList
    else returnsBelow tree child
termination_by tree.size - position
decreasing_by exact remaining_lt_of_mem_children _membership

/-- The values that a function returns: those of the `return` statements in its block, or the body
itself where the body is an expression. -/
def returnedValues (tree : Tree) (function : Nat) : List Nat :=
  match tree.childWith? function .body with
  | none => []
  | some body => if tree.kind body = .statementBlock then tree.returnsBelow body else [body]

end PromiseDetection.Tree

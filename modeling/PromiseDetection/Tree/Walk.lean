import PromiseDetection.Tree.Basic

/-!
Reading a tree in document order.

A cursor moves to a first child, to a next sibling or back to the parent. Moving it until nothing
is left below a node visits the subtree of that node. A walk of the whole tree visits the root and
then the subtree of each of its children, and asks a cancellation flag before each of these
subtrees and once more at the end.
-/

namespace PromiseDetection

/-- The answers a cancellation flag gives, one for each time it is asked. -/
abbrev Flag := Nat → Bool

namespace Flag

def lowered : Flag := fun _ => false

/-- The flag that was raised before the first question and stays raised. -/
def raised : Flag := fun _ => true

def after (flag : Flag) (asked : Nat) : Flag := fun question => flag (asked + question)

end Flag

namespace Tree

def firstChild? (tree : Tree) (position : Nat) : Option Nat :=
  if position + 1 < tree.subtreeEnd position then some (position + 1) else none

def nextSibling? (tree : Tree) (position : Nat) : Option Nat :=
  match tree.parent? position with
  | none => none
  | some parent =>
    if tree.subtreeEnd position < tree.subtreeEnd parent then some (tree.subtreeEnd position)
    else none

/-- The node to visit once the subtree of `position` is done: the next sibling of the node or of
its nearest ancestor that has one. The search never leaves the subtree of `top`. -/
def climb (tree : Tree) (top position : Nat) : Option Nat :=
  if position = top then none
  else
    match tree.nextSibling? position with
    | some sibling => some sibling
    | none =>
      match _found : tree.parent? position with
      | some parent => climb tree top parent
      | none => none
termination_by position
decreasing_by exact parent?_lt _found

def following? (tree : Tree) (top position : Nat) : Option Nat :=
  match tree.firstChild? position with
  | some child => some child
  | none => tree.climb top position

theorem subtreeEnd_le_of_climb {tree : Tree} {top position next : Nat}
    (inside : position < tree.size) (found : tree.climb top position = some next) :
    tree.subtreeEnd position ≤ next ∧ next < tree.size := by
  fun_induction tree.climb top position with
  | case1 => simp at found
  | case2 position _ sibling sideways =>
    cases found
    unfold nextSibling? at sideways
    split at sideways
    · simp at sideways
    · next parent upward =>
      have limit := subtreeEnd_le_size (Nat.lt_trans (parent?_lt upward) inside)
      split at sideways
      · cases sideways
        omega
      · simp at sideways
  | case3 position _ _ parent upward inductionHypothesis =>
    have climbed :=
      inductionHypothesis (Nat.lt_trans (parent?_lt upward) inside) found
    have nestedEnd := subtreeEnd_le_of_parent? upward
    omega
  | case4 => simp at found

theorem lt_following? {tree : Tree} {top position next : Nat}
    (found : tree.following? top position = some next) :
    position < next ∧ next < tree.size := by
  unfold following? at found
  by_cases inside : position < tree.size
  · split at found
    · next child downward =>
      cases found
      unfold firstChild? at downward
      split at downward
      · cases downward
        have limit := subtreeEnd_le_size inside
        omega
      · simp at downward
    · have climbed := subtreeEnd_le_of_climb inside found
      have own := lt_subtreeEnd inside
      omega
  · have outside : tree.size ≤ position := Nat.le_of_not_lt inside
    have alone : ¬ position + 1 < tree.subtreeEnd position := by
      rw [subtreeEnd_of_size_le outside]
      omega
    have orphan := parent?_of_size_le outside
    have still : tree.climb top position = none := by
      unfold climb nextSibling?
      simp only [orphan]
      split
      · rfl
      · split
        · next parent upward => simp [orphan] at upward
        · rfl
    simp [firstChild?, alone, still] at found

def visitFrom (tree : Tree) (top position : Nat) : List Nat :=
  position ::
    match _found : tree.following? top position with
    | some next => visitFrom tree top next
    | none => []
termination_by tree.size - position
decreasing_by
  have forward := lt_following? _found
  omega

/-- The nodes of the subtree of `top`, in the order a cursor meets them. -/
def visitSubtree (tree : Tree) (top : Nat) : List Nat := tree.visitFrom top top

/-- What a walk has seen: the nodes in the order they were visited, whether the walk came to its
end, and how often it asked the flag. -/
structure Walk where
  visited : List Nat
  finished : Bool
  asked : Nat
  deriving Repr, DecidableEq

/-- Visits one subtree after the other. The flag is asked before each and once at the end, and a
raised flag stops the walk; a subtree that was begun is always completed. -/
def walkSubtrees (tree : Tree) (flag : Flag) : List Nat → Walk
  | [] => { visited := [], finished := !flag 0, asked := 1 }
  | top :: rest =>
    if flag 0 then { visited := [], finished := false, asked := 1 }
    else
      let later := tree.walkSubtrees (flag.after 1) rest
      { visited := tree.visitSubtree top ++ later.visited
        finished := later.finished
        asked := 1 + later.asked }

/-- Visits the root and then the subtrees of its children. -/
def walk (tree : Tree) (flag : Flag) : Walk :=
  let below := tree.walkSubtrees flag (tree.children tree.root)
  { below with visited := tree.root :: below.visited }

def walkOrder (tree : Tree) : List Nat := (tree.walk .lowered).visited

end Tree

end PromiseDetection

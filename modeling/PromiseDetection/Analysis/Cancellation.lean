import PromiseDetection.Tree.Walk

/-!
Computations that a caller can cancel.

A cancelled walk yields nothing at all: whatever it has visited by then is dropped, so no later
stage ever sees part of a tree.
-/

namespace PromiseDetection

inductive AnalysisError where
  | cancelled
  /-- Inference asks itself the same question for ever. -/
  | endless
  deriving DecidableEq, Repr

def AnalysisError.message : AnalysisError → String
  | .cancelled => "Analysis cancelled"
  | .endless => "Inference does not end"

/-- A computation that consumes the answers of a cancellation flag. -/
abbrev Cancellable := StateT Flag (Except AnalysisError)

namespace Cancellable

def under {α : Type} (computation : Cancellable α) (flag : Flag) : Except AnalysisError α :=
  (computation.run flag).map (·.1)

def walk (tree : Tree) : Cancellable (List Nat) := fun flag =>
  let seen := tree.walk flag
  if seen.finished then .ok (seen.visited, flag.after seen.asked) else .error .cancelled

/-- What is made of the nodes of a whole tree while a walk visits them. If the visited nodes give no
result, then the walk has come to a node where it stays for ever, and does not ask the flag again.
-/
def alongWalk {α : Type} (tree : Tree) (make : List Nat → Option α) : Cancellable α := fun flag =>
  let seen := tree.walk flag
  match make seen.visited with
  | none => .error .endless
  | some result =>
    if seen.finished then .ok (result, flag.after seen.asked) else .error .cancelled

end Cancellable

end PromiseDetection

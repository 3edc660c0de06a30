import PromiseDetection.Analysis.Cancellation
import PromiseDetection.Proofs.Tree.Visit

/-!
Undisturbed computations: what a cancellable computation does under a flag that nobody raises.
-/

namespace PromiseDetection.Cancellable

variable {α β : Type}

/-- Undisturbed, a computation gives a value, and the flag is as it was. -/
def Gives (computation : Cancellable α) (value : α) : Prop :=
  computation.run .lowered = .ok (value, .lowered)

def Fails (computation : Cancellable α) (error : AnalysisError) : Prop :=
  computation.run .lowered = .error error

theorem gives_pure (value : α) : Gives (pure value) value := rfl

theorem Gives.bind {computation : Cancellable α} {next : α → Cancellable β} {value : α}
    {result : β} (given : computation.Gives value) (continued : (next value).Gives result) :
    Gives (computation >>= next) result := by
  unfold Gives at given continued ⊢
  rw [StateT.run_bind, given]
  exact continued

theorem Gives.bind_fails {computation : Cancellable α} {next : α → Cancellable β} {value : α}
    {error : AnalysisError} (given : computation.Gives value)
    (continued : (next value).Fails error) : Fails (computation >>= next) error := by
  unfold Gives at given
  unfold Fails at continued ⊢
  rw [StateT.run_bind, given]
  exact continued

theorem Fails.bind {computation : Cancellable α} {next : α → Cancellable β}
    {error : AnalysisError} (failed : computation.Fails error) :
    Fails (computation >>= next) error := by
  unfold Fails at failed ⊢
  rw [StateT.run_bind, failed]
  rfl

theorem Gives.under {computation : Cancellable α} {value : α} (given : computation.Gives value) :
    computation.under .lowered = .ok value := by
  unfold Gives at given
  rw [Cancellable.under, given]
  rfl

theorem Fails.under {computation : Cancellable α} {error : AnalysisError}
    (failed : computation.Fails error) : computation.under .lowered = .error error := by
  unfold Fails at failed
  rw [Cancellable.under, failed]
  rfl

theorem gives_walk (tree : Tree) : (walk tree).Gives tree.walkOrder := by
  simp only [Gives, StateT.run, walk, tree.walk_lowered_finished, ↓reduceIte]
  rfl

theorem gives_alongWalk {tree : Tree} {make : List Nat → Option α} {result : α}
    (made : make tree.walkOrder = some result) : (alongWalk tree make).Gives result := by
  simp only [Tree.walkOrder] at made
  simp only [Gives, StateT.run, alongWalk, made, tree.walk_lowered_finished, ↓reduceIte]
  rfl

theorem fails_alongWalk {tree : Tree} {make : List Nat → Option α}
    (lost : make tree.walkOrder = none) : (alongWalk tree make).Fails .endless := by
  simp only [Tree.walkOrder] at lost
  simp only [Fails, StateT.run, alongWalk, lost]

end PromiseDetection.Cancellable

import Mathlib.Data.List.Sort
import PromiseDetection.Text.Span

/-!
The order of spans, by their start and then by their end, and lists that are kept in this order.
-/

namespace PromiseDetection.Span

variable {span other : Span} {spans found : List Span}

theorem before_iff :
    span.before other = true ↔
      span.start < other.start ∨ span.start = other.start ∧ span.stop < other.stop := by
  simp [before]

theorem before_trans {last : Span} (first : span.before other = true)
    (second : other.before last = true) : span.before last = true := by
  rw [before_iff] at first second ⊢
  omega

theorem before_of_not_before (different : span ≠ other) (later : span.before other = false) :
    other.before span = true := by
  rw [Bool.eq_false_iff, ne_eq, before_iff] at later
  rw [before_iff]
  by_contra
  apply different
  cases span
  cases other
  simp only [mk.injEq] at *
  omega

instance : Std.Irrefl fun first second : Span => first.before second = true where
  irrefl span := by simp [before_iff]

instance : Std.Antisymm fun first second : Span => first.before second = true where
  antisymm first second one other := by
    rw [before_iff] at one other
    omega

def Increasing (spans : List Span) : Prop :=
  spans.Pairwise fun first second => first.before second = true

theorem mem_insertInto : other ∈ span.insertInto spans ↔ other = span ∨ other ∈ spans := by
  induction spans with
  | nil => simp [insertInto]
  | cons head rest inductionHypothesis =>
    unfold insertInto
    split
    · next same => simp [same]
    · split
      · simp
      · simp only [List.mem_cons, inductionHypothesis]
        exact or_left_comm

theorem Increasing.insertInto (increasing : Increasing spans) (span : Span) :
    Increasing (span.insertInto spans) := by
  induction spans with
  | nil => simp [Increasing, Span.insertInto]
  | cons head rest inductionHypothesis =>
    obtain ⟨first, later⟩ := List.pairwise_cons.mp increasing
    unfold Span.insertInto
    split
    · exact increasing
    · next different =>
      split
      · next front =>
        apply List.pairwise_cons.mpr
        refine ⟨?_, increasing⟩
        intro other membership
        rcases List.mem_cons.mp membership with rfl | inRest
        · exact front
        · exact before_trans front (first other inRest)
      · next behind =>
        apply List.pairwise_cons.mpr
        refine ⟨?_, inductionHypothesis later⟩
        intro other membership
        rcases mem_insertInto.mp membership with rfl | inRest
        · exact before_of_not_before different (by simpa using behind)
        · exact first other inRest

theorem mem_foldl_insertInto :
    other ∈ spans.foldl (fun all span => span.insertInto all) found ↔
      other ∈ spans ∨ other ∈ found := by
  induction spans generalizing found with
  | nil => simp
  | cons span rest inductionHypothesis =>
    rw [List.foldl_cons, inductionHypothesis, mem_insertInto, List.mem_cons, or_left_comm,
      or_assoc]

theorem Increasing.foldl_insertInto (increasing : Increasing found) (spans : List Span) :
    Increasing (spans.foldl (fun all span => span.insertInto all) found) := by
  induction spans generalizing found with
  | nil => exact increasing
  | cons span rest inductionHypothesis => exact inductionHypothesis (increasing.insertInto span)

theorem Increasing.foldl_insertInto_nil (increasing : Increasing spans) :
    spans.foldl (fun all span => span.insertInto all) [] = spans := by
  apply List.Pairwise.eq_of_mem_iff (Increasing.foldl_insertInto List.Pairwise.nil spans) increasing
  intro span
  rw [mem_foldl_insertInto, or_iff_left List.not_mem_nil]

end PromiseDetection.Span

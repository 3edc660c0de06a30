import PromiseDetection.Disk.Path

/-!
The order of paths, by their parts, and lists of paths that are kept in this order.

Spellings of one path have one place in the order, so an ordered list holds a path in at most one of
its spellings.
-/

namespace PromiseDetection

namespace PathPart

variable {first second last : PathPart} {parts others more : List PathPart}

theorem before_iff :
    first.before second = true ↔
      first.rank < second.rank ∨
        ∃ one other, first = .name one ∧ second = .name other ∧ one < other := by
  cases first <;> cases second <;> simp only [before, decide_eq_true_iff] <;> simp [rank]

theorem before_irrefl (part : PathPart) : part.before part = false := by
  rw [Bool.eq_false_iff, ne_eq, before_iff]
  rintro (lower | ⟨one, other, rfl, same, lower⟩)
  · exact Nat.lt_irrefl _ lower
  · cases same
    exact String.lt_irrefl one lower

theorem before_trans (one : first.before second = true) (other : second.before last = true) :
    first.before last = true := by
  rw [before_iff] at one other ⊢
  rcases one with lower | ⟨text, middle, rfl, rfl, lower⟩
  · rcases other with higher | ⟨_, _, rfl, rfl, _⟩
    · exact Or.inl (Nat.lt_trans lower higher)
    · exact Or.inl lower
  · rcases other with higher | ⟨_, final, same, rfl, higher⟩
    · exact Or.inl higher
    · cases same
      exact Or.inr ⟨text, final, rfl, rfl, String.lt_trans lower higher⟩

theorem eq_of_rank_eq (same : first.rank = second.rank) :
    first = second ∨ ∃ one other, first = .name one ∧ second = .name other := by
  cases first <;> cases second <;> simp_all [rank]

theorem before_or_before (different : first ≠ second) :
    first.before second = true ∨ second.before first = true := by
  rw [before_iff, before_iff]
  rcases Nat.lt_trichotomy first.rank second.rank with lower | same | higher
  · exact Or.inl (Or.inl lower)
  · obtain ⟨one, other, rfl, rfl⟩ := (eq_of_rank_eq same).resolve_left different
    have apart : one ≠ other := fun same => different (congrArg name same)
    rcases String.le_total one other with lower | higher
    · exact Or.inl (Or.inr ⟨one, other, rfl, rfl, Std.lt_of_le_of_ne lower apart⟩)
    · exact Or.inr (Or.inr ⟨other, one, rfl, rfl, Std.lt_of_le_of_ne higher apart.symm⟩)
  · exact Or.inr (Or.inl higher)

theorem listBefore_trans (one : listBefore parts others = true)
    (other : listBefore others more = true) : listBefore parts more = true := by
  induction parts generalizing others more with
  | nil => cases others <;> cases more <;> simp_all [listBefore]
  | cons part rest inductionHypothesis =>
    match others, more with
    | [], _ => simp [listBefore] at one
    | _ :: _, [] => simp [listBefore] at other
    | next :: nexts, final :: finals =>
      simp only [listBefore] at one other ⊢
      by_cases same : part = next
      · subst same
        rw [if_pos rfl] at one
        split
        · next last =>
          rw [if_pos last] at other
          exact inductionHypothesis one other
        · next different => rwa [if_neg different] at other
      · rw [if_neg same] at one
        by_cases same' : next = final
        · subst same'
          rwa [if_neg same]
        · rw [if_neg same'] at other
          have between := before_trans one other
          have different : part ≠ final := by
            rintro rfl
            simp [before_irrefl] at between
          rwa [if_neg different]

theorem listBefore_or_listBefore (different : parts ≠ others) :
    listBefore parts others = true ∨ listBefore others parts = true := by
  induction parts generalizing others with
  | nil => cases others <;> simp_all [listBefore]
  | cons part rest inductionHypothesis =>
    cases others with
    | nil => simp [listBefore]
    | cons next nexts =>
      by_cases same : part = next
      · subst same
        simpa [listBefore] using inductionHypothesis (by simpa using different)
      · simpa [listBefore, same, Ne.symm same] using before_or_before same

end PathPart

namespace Path

variable {path other last added : Path} {paths : List Path}

theorem same_iff : path.same other = true ↔ path.parts = other.parts := by simp [same]

def IsIn (path : Path) (paths : List Path) : Prop := ∃ listed ∈ paths, path.same listed = true

def Ordered (paths : List Path) : Prop :=
  paths.Pairwise fun first second => first.before second = true

theorem before_trans (one : path.before other = true) (two : other.before last = true) :
    path.before last = true :=
  PathPart.listBefore_trans one two

theorem before_of_not_before (different : path.same other = false)
    (later : path.before other = false) : other.before path = true := by
  have parts : path.parts ≠ other.parts := by simpa [same] using different
  exact (PathPart.listBefore_or_listBefore parts).resolve_left (by simpa [before] using later)

@[simp] theorem not_isIn_nil (path : Path) : ¬ path.IsIn [] := by simp [IsIn]

@[simp] theorem isIn_cons :
    path.IsIn (other :: paths) ↔ path.same other = true ∨ path.IsIn paths := by simp [IsIn]

theorem mem_insertInto (inserted : other ∈ added.insertInto paths) :
    other = added ∨ other ∈ paths := by
  induction paths with
  | nil => simpa [insertInto] using inserted
  | cons head rest inductionHypothesis =>
    unfold insertInto at inserted
    split at inserted
    · exact Or.inr inserted
    · split at inserted
      · simpa using inserted
      · rcases List.mem_cons.mp inserted with rfl | deeper
        · exact Or.inr List.mem_cons_self
        · exact (inductionHypothesis deeper).imp_right (List.mem_cons_of_mem _)

@[simp] theorem isIn_insertInto :
    path.IsIn (added.insertInto paths) ↔ path.same added = true ∨ path.IsIn paths := by
  induction paths with
  | nil => simp [insertInto]
  | cons head rest inductionHypothesis =>
    unfold insertInto
    split
    · next alike =>
      rw [isIn_cons, same_iff, same_iff, same_iff.mp alike, ← or_assoc, or_self]
    · split
      · rw [isIn_cons]
      · rw [isIn_cons, isIn_cons, inductionHypothesis, or_left_comm]

theorem Ordered.insertInto (ordered : Ordered paths) (added : Path) :
    Ordered (added.insertInto paths) := by
  induction paths with
  | nil => simp [Ordered, Path.insertInto]
  | cons head rest inductionHypothesis =>
    obtain ⟨first, later⟩ := List.pairwise_cons.mp ordered
    unfold Path.insertInto
    split
    · exact ordered
    · next different =>
      split
      · next front =>
        refine List.pairwise_cons.mpr ⟨fun other inside => ?_, ordered⟩
        rcases List.mem_cons.mp inside with rfl | inRest
        · exact front
        · exact before_trans front (first other inRest)
      · next behind =>
        refine List.pairwise_cons.mpr ⟨fun other inside => ?_, inductionHypothesis later⟩
        rcases mem_insertInto inside with rfl | inRest
        · exact before_of_not_before (by simpa using different) (by simpa using behind)
        · exact first other inRest

end Path

end PromiseDetection

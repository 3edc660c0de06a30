import Mathlib.Logic.Relation
import PromiseDetection.Code.Candidate
import PromiseDetection.Proofs.Tree.Visit

/-!
Ranges of nodes.

In a tree whose nodes cover ranges of a text that fit into each other, two nodes are nested or
separated: one of them is above the other, or the one that comes first in document order ends before
the other one begins. A node without any text may touch its neighbours, and it may begin and end
where they do.
-/

namespace PromiseDetection.Tree

/-- Every node covers a range of the text. Its children lie inside it, in order and without
overlapping. -/
structure Laid (tree : Tree) : Prop where
  ordered : ∀ position < tree.size, tree.start position ≤ tree.stop position
  inside : ∀ parent < tree.size, ∀ child ∈ tree.children parent,
    tree.start parent ≤ tree.start child ∧ tree.stop child ≤ tree.stop parent
  apart : ∀ parent < tree.size, ∀ first ∈ tree.children parent, ∀ second ∈ tree.children parent,
    first < second → tree.stop first ≤ tree.start second

instance (tree : Tree) : Decidable tree.Laid :=
  decidable_of_iff
    ((∀ position < tree.size, tree.start position ≤ tree.stop position) ∧
      (∀ parent < tree.size, ∀ child ∈ tree.children parent,
        tree.start parent ≤ tree.start child ∧ tree.stop child ≤ tree.stop parent) ∧
      ∀ parent < tree.size, ∀ first ∈ tree.children parent, ∀ second ∈ tree.children parent,
        first < second → tree.stop first ≤ tree.start second)
    ⟨fun ⟨ordered, inside, apart⟩ => ⟨ordered, inside, apart⟩,
      fun laid => ⟨laid.ordered, laid.inside, laid.apart⟩⟩

def IsAbove (tree : Tree) (above node : Nat) : Prop :=
  Relation.TransGen (fun parent child => tree.parent? child = some parent) above node

variable {tree : Tree} {parent child first second : Nat}

theorem mem_children_of_parent? (found : tree.parent? child = some parent) :
    child ∈ tree.children parent := by
  have below := parent?_lt found
  have own := tree.lt_subtreeEnd_self child
  have nestedEnd := subtreeEnd_le_of_parent? found
  rw [children, List.mem_filter, List.mem_range'_1, decide_eq_true_eq]
  refine ⟨?_, found⟩
  omega

theorem isAbove_of_parent? (found : tree.parent? child = some parent) {above : Nat}
    (outer : above = parent ∨ tree.IsAbove above parent) : tree.IsAbove above child := by
  rcases outer with rfl | outer
  · exact .single found
  · exact outer.tail found

theorem isAbove_iff : tree.IsAbove first second ↔ first < second ∧ second < tree.subtreeEnd first := by
  constructor
  · intro above
    induction above with
    | single found =>
      have own := tree.lt_subtreeEnd_self
      exact ⟨parent?_lt found, Nat.lt_of_lt_of_le (own _) (subtreeEnd_le_of_parent? found)⟩
    | @tail parent child _ found inductionHypothesis =>
      obtain ⟨before, inside⟩ := inductionHypothesis
      have own := tree.lt_subtreeEnd_self child
      have nestedEnd := subtreeEnd_le_of_parent? found
      have outer := subtreeEnd_le_of_mem_subtree parent (Nat.le_of_lt before) inside
      exact ⟨Nat.lt_trans before (parent?_lt found), by omega⟩
  · rintro ⟨before, inside⟩
    induction second using Nat.strong_induction_on with
    | _ second inductionHypothesis =>
      obtain ⟨parent, found, inTop⟩ := exists_parent_of_mem_subtree second before inside
      apply isAbove_of_parent? found
      rcases Nat.eq_or_lt_of_le inTop with same | deeper
      · exact Or.inl same
      · exact Or.inr (inductionHypothesis parent (parent?_lt found) deeper
          (Nat.lt_trans (parent?_lt found) inside))

instance (tree : Tree) (above node : Nat) : Decidable (tree.IsAbove above node) :=
  decidable_of_iff _ isAbove_iff.symm

theorem Laid.inside_parent (laid : tree.Laid) (found : tree.parent? child = some parent) :
    tree.start parent ≤ tree.start child ∧ tree.stop child ≤ tree.stop parent :=
  laid.inside parent (Nat.lt_trans (parent?_lt found) (lt_size_of_parent? found)) child
    (mem_children_of_parent? found)

/-- Whatever stands below a node and before one of its children ends before that child. The
induction climbs to the child of the node that stands above it. -/
theorem Laid.stop_le_start_of_parent? (laid : tree.Laid) (found : tree.parent? second = some parent)
    (below : parent < first) (before : first < second) : tree.stop first ≤ tree.start second := by
  have inside : first < tree.subtreeEnd parent := by
    have own := tree.lt_subtreeEnd_self second
    have nestedEnd := subtreeEnd_le_of_parent? found
    omega
  induction first using Nat.strong_induction_on with
  | _ first inductionHypothesis =>
    obtain ⟨between, upward, inTop⟩ := exists_parent_of_mem_subtree first below inside
    have closer := parent?_lt upward
    rcases Nat.eq_or_lt_of_le inTop with rfl | deeper
    · have inTree := Nat.lt_trans (parent?_lt found) (lt_size_of_parent? found)
      exact laid.apart parent inTree first (mem_children_of_parent? upward) second
        (mem_children_of_parent? found) before
    · have earlier := inductionHypothesis between closer deeper (Nat.lt_trans closer before)
        (Nat.lt_trans closer inside)
      exact Nat.le_trans (laid.inside_parent upward).2 earlier

/-- A subtree ends before whatever comes after it begins. The induction climbs from the later node
until its parent is above both. -/
theorem Laid.stop_le_start (laid : tree.Laid) (after : tree.subtreeEnd first ≤ second)
    (inside : second < tree.size) : tree.stop first ≤ tree.start second := by
  have own := tree.lt_subtreeEnd_self first
  induction second using Nat.strong_induction_on with
  | _ second inductionHypothesis =>
    cases found : tree.parent? second with
    | none =>
      have first := (parent?_eq_none_iff inside).mp found
      omega
    | some parent =>
      have closer := parent?_lt found
      rcases Nat.lt_or_ge parent first with above | behind
      · exact laid.stop_le_start_of_parent? found above (Nat.lt_of_lt_of_le own after)
      · have apart : tree.subtreeEnd first ≤ parent := by
          by_contra within
          have outer := subtreeEnd_le_of_mem_subtree parent behind (Nat.lt_of_not_le within)
          have reach := subtreeEnd_le_of_parent? found
          have last := tree.lt_subtreeEnd_self second
          omega
        have earlier := inductionHypothesis parent closer apart (Nat.lt_trans closer inside)
        exact Nat.le_trans earlier (laid.inside_parent found).1

/-- **Nested or separated.** If the first of two nodes is not above the second, then it ends before
the second one begins. -/
theorem Laid.separated (laid : tree.Laid) (before : first < second) (inside : second < tree.size)
    (beside : ¬ tree.IsAbove first second) : tree.stop first ≤ tree.start second := by
  rw [isAbove_iff, not_and, Nat.not_lt] at beside
  exact laid.stop_le_start (beside before) inside

theorem lt_size_of_childWith? {role : Field} (found : tree.childWith? parent role = some child) :
    child < tree.size :=
  lt_size_of_mem_children (mem_children_of_childWith? found)

theorem lt_size_of_either {role other : Field} {plain : Nat → Bool}
    (found : ((tree.childWith? parent role).or (tree.childWith? parent other)).filter plain =
      some child) : child < tree.size := by
  rcases Option.or_eq_some_iff.mp (Option.filter_eq_some_iff.mp found).1 with first | ⟨_, second⟩
  · exact lt_size_of_childWith? first
  · exact lt_size_of_childWith? second

theorem lt_size_of_nameOfBinder {expression name : Nat} {binder : Binder}
    (bound : tree.binder? expression = some binder) (named : binder.name? = some name) :
    name < tree.size := by
  simp only [binder?, Option.bind_eq_bind, Option.bind_eq_some_iff] at bound
  obtain ⟨⟨wrapped, place⟩, _, bound⟩ := bound
  split at bound
  · split at bound <;> cases bound
    exact lt_size_of_childWith? (Option.filter_eq_some_iff.mp named).1
  · split at bound <;> cases bound
    exact lt_size_of_childWith? (Option.filter_eq_some_iff.mp named).1
  · split at bound <;> cases bound
    exact lt_size_of_either named
  · split at bound <;> cases bound
    exact lt_size_of_either named
  · split at bound
    · obtain ⟨left, found, bound⟩ := Option.bind_eq_some_iff.mp bound
      split at bound <;> cases bound
      · cases named
        exact lt_size_of_childWith? found
      · exact lt_size_of_childWith? named
    · simp at bound
  · simp at bound

theorem lt_size_of_nameOfFunction? {function name : Nat}
    (found : tree.nameOfFunction? function = some name) : name < tree.size := by
  unfold nameOfFunction? at found
  split at found
  · exact lt_size_of_childWith? found
  · exact lt_size_of_childWith? found
  · exact lt_size_of_childWith? (Option.filter_eq_some_iff.mp found).1
  · rcases Option.or_eq_some_iff.mp found with bound | ⟨_, own⟩
    · obtain ⟨binder, bound, named⟩ := Option.bind_eq_some_iff.mp bound
      exact lt_size_of_nameOfBinder bound named
    · exact lt_size_of_childWith? own

theorem lt_size_of_nameOfCall? {call name : Nat} (found : tree.nameOfCall? call = some name) :
    name < tree.size := by
  obtain ⟨callee, called, found⟩ := Option.bind_eq_some_iff.mp found
  split at found
  · cases found
    exact lt_size_of_childWith? called
  · exact lt_size_of_childWith? (Option.filter_eq_some_iff.mp found).1
  · simp at found

theorem lt_size_of_candidate? {position : Nat} {candidate : Candidate}
    (found : tree.candidate? position = some candidate) : candidate.name < tree.size := by
  unfold candidate? at found
  split at found
  · obtain ⟨name, named, rfl⟩ := Option.map_eq_some_iff.mp found
    exact lt_size_of_nameOfCall? named
  · split at found
    · obtain ⟨name, named, rfl⟩ := Option.map_eq_some_iff.mp found
      exact lt_size_of_nameOfFunction? named
    · simp at found

end PromiseDetection.Tree

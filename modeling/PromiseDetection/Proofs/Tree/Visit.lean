import Mathlib.Tactic.ByContra
import Mathlib.Data.Nat.Init
import PromiseDetection.Tree.Walk

/-!
The cursor reads the table from front to back.

The subtree of a node is an interval of positions, and two such intervals are nested or apart. So a
cursor that climbs out of a finished subtree arrives at the position right after it, and an
undisturbed walk visits every position of the table once, in order.
-/

namespace PromiseDetection.Tree

theorem lt_subtreeEnd_self (tree : Tree) (position : Nat) :
    position < tree.subtreeEnd position := by
  rcases Nat.lt_or_ge position tree.size with inside | outside
  · exact lt_subtreeEnd inside
  · rw [subtreeEnd_of_size_le outside]
    exact Nat.lt_succ_self position

theorem exists_parent_of_mem_subtree {tree : Tree} {top : Nat} (position : Nat)
    (below : top < position) (inside : position < tree.subtreeEnd top) :
    ∃ parent, tree.parent? position = some parent ∧ top ≤ parent := by
  have topInside : top < tree.size := by
    by_contra outside
    rw [subtreeEnd_of_size_le (Nat.le_of_not_lt outside)] at inside
    omega
  have limit := subtreeEnd_le_size topInside
  induction position using Nat.strong_induction_on with
  | _ position inductionHypothesis =>
    -- Climb from the position before this one to the node whose subtree ends just here.
    have climbing : ∀ node, top ≤ node → node < position → tree.subtreeEnd node = position →
        ∃ parent, tree.parent? position = some parent ∧ top ≤ parent := by
      intro node
      induction node using Nat.strong_induction_on with
      | _ node outward =>
        intro aboveTop before ends
        have apart : node ≠ top := by
          rintro rfl
          omega
        obtain ⟨parent, upward, inTop⟩ :=
          inductionHypothesis node before (by omega) (by omega)
        rcases Nat.lt_or_ge (tree.subtreeEnd node) (tree.subtreeEnd parent) with more | last
        · refine ⟨parent, ?_, inTop⟩
          simpa [ends] using parent?_next upward more
        · have nestedEnd := subtreeEnd_le_of_parent? upward
          exact outward parent (parent?_lt upward) inTop
            (Nat.lt_trans (parent?_lt upward) before) (by omega)
    obtain ⟨previous, rfl⟩ : ∃ previous, position = previous + 1 := ⟨position - 1, by omega⟩
    have own : previous < tree.subtreeEnd previous := lt_subtreeEnd (by omega)
    rcases Nat.lt_or_ge (previous + 1) (tree.subtreeEnd previous) with opens | ends
    · exact ⟨previous, parent?_first (by omega) opens, by omega⟩
    · exact climbing previous (by omega) (by omega) (by omega)

theorem subtreeEnd_le_of_mem_subtree {tree : Tree} {top : Nat} (position : Nat)
    (below : top ≤ position) (inside : position < tree.subtreeEnd top) :
    tree.subtreeEnd position ≤ tree.subtreeEnd top := by
  induction position using Nat.strong_induction_on with
  | _ position inductionHypothesis =>
    rcases Nat.eq_or_lt_of_le below with rfl | deeper
    · exact Nat.le_refl _
    · obtain ⟨parent, upward, inTop⟩ := exists_parent_of_mem_subtree position deeper inside
      have nestedEnd := subtreeEnd_le_of_parent? upward
      have closer := parent?_lt upward
      have outer := inductionHypothesis parent closer inTop (by omega)
      omega

theorem climb_eq {tree : Tree} {top position : Nat} (below : top ≤ position)
    (inside : position < tree.subtreeEnd top) :
    tree.climb top position =
      if tree.subtreeEnd position < tree.subtreeEnd top then some (tree.subtreeEnd position)
      else none := by
  fun_induction tree.climb top position with
  | case1 => simp
  | case2 position apart sibling sideways =>
    obtain ⟨parent, upward, inTop⟩ :=
      exists_parent_of_mem_subtree position (by omega) inside
    have outer := subtreeEnd_le_of_mem_subtree parent inTop
      (Nat.lt_trans (parent?_lt upward) inside)
    simp only [nextSibling?, upward] at sideways
    split at sideways
    · cases sideways
      rw [if_pos (by omega)]
    · simp at sideways
  | case3 position apart alone parent upward inductionHypothesis =>
    obtain ⟨_, same, inTop⟩ := exists_parent_of_mem_subtree position (by omega) inside
    cases upward.symm.trans same
    have nestedEnd := subtreeEnd_le_of_parent? upward
    have together : tree.subtreeEnd position = tree.subtreeEnd parent := by
      simp only [nextSibling?, upward] at alone
      split at alone
      · simp at alone
      · omega
    rw [inductionHypothesis inTop (Nat.lt_trans (parent?_lt upward) inside), together]
  | case4 position apart alone orphan =>
    obtain ⟨_, upward, _⟩ := exists_parent_of_mem_subtree position (by omega) inside
    simp [orphan] at upward

theorem following?_eq {tree : Tree} {top position : Nat} (below : top ≤ position)
    (inside : position < tree.subtreeEnd top) :
    tree.following? top position =
      if position + 1 < tree.subtreeEnd top then some (position + 1) else none := by
  have outer := subtreeEnd_le_of_mem_subtree position below inside
  have own := tree.lt_subtreeEnd_self position
  unfold following? firstChild?
  by_cases opens : position + 1 < tree.subtreeEnd position
  · have within : position + 1 < tree.subtreeEnd top := by omega
    simp [opens, within]
  · have ends : tree.subtreeEnd position = position + 1 := by omega
    simp [climb_eq below inside, ends]

def between (first stop : Nat) : List Nat := List.range' first (stop - first)

theorem between_append {first middle stop : Nat} (lower : first ≤ middle)
    (upper : middle ≤ stop) : between first middle ++ between middle stop = between first stop := by
  obtain ⟨front, rfl⟩ := Nat.exists_eq_add_of_le lower
  obtain ⟨back, rfl⟩ := Nat.exists_eq_add_of_le upper
  simp only [between, Nat.add_assoc, Nat.add_sub_add_left, Nat.add_sub_cancel_left,
    List.range'_append_1]

theorem between_cons {first stop : Nat} (more : first < stop) :
    first :: between (first + 1) stop = between first stop := by
  obtain ⟨rest, rfl⟩ := Nat.exists_eq_add_of_lt more
  have size : first + rest + 1 - first = rest + 1 := by omega
  have tailSize : first + rest + 1 - (first + 1) = rest := by omega
  rw [between, between, size, tailSize, List.range'_succ]

theorem mem_between {first stop position : Nat} :
    position ∈ between first stop ↔ first ≤ position ∧ position < stop := by
  simp only [between, List.mem_range'_1]
  omega

theorem visitFrom_eq {tree : Tree} {top position : Nat} (below : top ≤ position)
    (inside : position < tree.subtreeEnd top) :
    tree.visitFrom top position = between position (tree.subtreeEnd top) := by
  have step := following?_eq below inside
  unfold visitFrom
  by_cases more : position + 1 < tree.subtreeEnd top
  · rw [if_pos more] at step
    have later : tree.visitFrom top (position + 1) =
        between (position + 1) (tree.subtreeEnd top) :=
      visitFrom_eq (Nat.le_succ_of_le below) more
    split
    · next found =>
      cases found.symm.trans step
      rw [later, between_cons inside]
    · next stuck => simp [stuck] at step
  · rw [if_neg more] at step
    have last : tree.subtreeEnd top = position + 1 := by omega
    split
    · next found => simp [found] at step
    · simp [last, between]
termination_by tree.subtreeEnd top - position

theorem visitSubtree_eq (tree : Tree) (top : Nat) :
    tree.visitSubtree top = between top (tree.subtreeEnd top) :=
  visitFrom_eq (Nat.le_refl top) (tree.lt_subtreeEnd_self top)

def childrenBetween (tree : Tree) (node first stop : Nat) : List Nat :=
  (between first stop).filter fun child => tree.parent? child = some node

theorem childrenBetween_below {tree : Tree} {node child : Nat} (above : node < child) :
    tree.childrenBetween node (child + 1) (tree.subtreeEnd child) = [] := by
  apply List.filter_eq_nil_iff.mpr
  intro position membership
  obtain ⟨after, before⟩ := mem_between.mp membership
  obtain ⟨parent, upward, inChild⟩ :=
    exists_parent_of_mem_subtree position (Nat.lt_of_succ_le after) before
  simp only [upward, decide_eq_true_eq, Option.some.injEq]
  omega

theorem childrenBetween_cons {tree : Tree} {node child : Nat}
    (upward : tree.parent? child = some node) :
    tree.childrenBetween node child (tree.subtreeEnd node) =
      child :: tree.childrenBetween node (tree.subtreeEnd child) (tree.subtreeEnd node) := by
  have nestedEnd := subtreeEnd_le_of_parent? upward
  have own := tree.lt_subtreeEnd_self child
  unfold childrenBetween
  rw [← between_cons (Nat.lt_of_lt_of_le own nestedEnd),
    ← between_append (Nat.succ_le_of_lt own) nestedEnd,
    List.filter_cons_of_pos (by simpa using upward), List.filter_append]
  congr 1
  exact List.append_left_eq_self.mpr (childrenBetween_below (parent?_lt upward))

theorem flatMap_childrenBetween (tree : Tree) (node first : Nat) (above : node < first)
    (before : first ≤ tree.subtreeEnd node)
    (opens : first < tree.subtreeEnd node → tree.parent? first = some node) :
    (tree.childrenBetween node first (tree.subtreeEnd node)).flatMap tree.visitSubtree =
      between first (tree.subtreeEnd node) := by
  rcases Nat.eq_or_lt_of_le before with done | more
  · simp [done, childrenBetween, between]
  · have upward := opens more
    have nestedEnd := subtreeEnd_le_of_parent? upward
    have own := tree.lt_subtreeEnd_self first
    have later := flatMap_childrenBetween tree node (tree.subtreeEnd first) (by omega) nestedEnd
      (parent?_next upward)
    rw [childrenBetween_cons upward, List.flatMap_cons, later, visitSubtree_eq]
    exact between_append (Nat.le_of_lt own) nestedEnd
termination_by tree.subtreeEnd node - first

theorem walkSubtrees_of_lowered (tree : Tree) {flag : Flag} {tops : List Nat}
    (lowered : ∀ poll ≤ tops.length, flag poll = false) :
    tree.walkSubtrees flag tops =
      { visited := tops.flatMap tree.visitSubtree, finished := true,
        asked := tops.length + 1 } := by
  have now : flag 0 = false := lowered 0 (Nat.zero_le _)
  induction tops generalizing flag with
  | nil => simp [walkSubtrees, now]
  | cons top rest inductionHypothesis =>
    have later : ∀ poll ≤ rest.length, flag.after 1 poll = false := fun poll within =>
      lowered (1 + poll) (by simp only [List.length_cons]; omega)
    rw [walkSubtrees, inductionHypothesis later (later 0 (Nat.zero_le _))]
    simp [now, Nat.add_comm]

theorem walkSubtrees_lowered (tree : Tree) (tops : List Nat) :
    tree.walkSubtrees .lowered tops =
      { visited := tops.flatMap tree.visitSubtree, finished := true, asked := tops.length + 1 } :=
  tree.walkSubtrees_of_lowered fun _ _ => rfl

theorem walkOrder_eq (tree : Tree) : tree.walkOrder = List.range tree.size := by
  have whole : tree.subtreeEnd tree.root = tree.size := by
    have fits := tree.nested 0 tree.nonempty
    have orphan : tree.parent? 0 = none := (parent?_eq_none_iff tree.nonempty).mpr rfl
    unfold Nested at fits
    simp only [show parentIn tree.nodes 0 = none from orphan] at fits
    exact fits.2.2.2.2
  have rootEnds := tree.lt_subtreeEnd_self tree.root
  have below : (tree.children tree.root).flatMap tree.visitSubtree = between 1 tree.size := by
    rw [← whole]
    exact tree.flatMap_childrenBetween tree.root 1 Nat.one_pos rootEnds
      (parent?_first tree.nonempty)
  have nonempty : 0 < tree.size := tree.nonempty
  simp only [walkOrder, walk, walkSubtrees_lowered, below]
  rw [show tree.root = 0 from rfl, between_cons nonempty, List.range_eq_range']
  rfl

theorem walk_lowered_finished (tree : Tree) : (tree.walk .lowered).finished = true := by
  rw [walk, walkSubtrees_lowered]

end PromiseDetection.Tree

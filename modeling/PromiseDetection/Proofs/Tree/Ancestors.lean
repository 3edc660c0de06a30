import PromiseDetection.Proofs.Tree.Ranges

/-!
The way up from a node.

A node is around itself and around everything below it, and of two nodes around a third one, one is
around the other. A search that asks one node after the other on the way up, the node itself first,
gives the answer of the innermost node that has one.
-/

namespace PromiseDetection.Tree

variable {tree : Tree} {above first second node parent : Nat}

def IsAround (tree : Tree) (around node : Nat) : Prop :=
  around = node ∨ tree.IsAbove around node

theorem isAbove_iff_of_parent? (found : tree.parent? node = some parent) :
    tree.IsAbove above node ↔ tree.IsAround above parent := by
  refine ⟨fun higher => ?_, isAbove_of_parent? found⟩
  obtain ⟨last, way, step⟩ := Relation.TransGen.tail'_iff.mp higher
  rw [found] at step
  cases step
  rcases Relation.reflTransGen_iff_eq_or_transGen.mp way with same | higher
  · exact Or.inl same.symm
  · exact Or.inr higher

theorem isAbove_of_isAround {child : Nat} (found : tree.parent? child = some above)
    (around : tree.IsAround child node) : tree.IsAbove above node := by
  rcases around with rfl | lower
  · exact .single found
  · exact Relation.TransGen.head found lower

theorem IsAbove.exists_child (outer : tree.IsAbove above node) :
    ∃ child ∈ tree.children above, tree.IsAround child node := by
  obtain ⟨child, found, path⟩ := Relation.TransGen.head'_iff.mp outer
  refine ⟨child, mem_children_of_parent? found, ?_⟩
  rcases Relation.reflTransGen_iff_eq_or_transGen.mp path with same | deeper
  · exact .inl same.symm
  · exact .inr deeper

theorem not_isAbove_of_orphan (orphan : tree.parent? node = none) : ¬ tree.IsAbove above node := by
  intro higher
  obtain ⟨_, _, step⟩ := Relation.TransGen.tail'_iff.mp higher
  simp [orphan] at step

theorem IsAbove.lt (higher : tree.IsAbove above node) : above < node :=
  (isAbove_iff.mp higher).1

theorem IsAround.le (around : tree.IsAround above node) : above ≤ node := by
  rcases around with rfl | higher
  · exact Nat.le_refl _
  · exact Nat.le_of_lt higher.lt

theorem IsAbove.trans_isAround (higher : tree.IsAbove first second)
    (around : tree.IsAround second node) : tree.IsAbove first node := by
  rcases around with rfl | lower
  · exact higher
  · exact higher.trans lower

theorem IsAround.trans (outer : tree.IsAround first second) (around : tree.IsAround second node) :
    tree.IsAround first node := by
  rcases outer with rfl | higher
  · exact around
  · exact Or.inr (higher.trans_isAround around)

theorem isAround_or_isAbove (one : tree.IsAround first node) (other : tree.IsAround second node) :
    tree.IsAround first second ∨ tree.IsAbove second first := by
  unfold IsAround at *
  simp only [isAbove_iff] at *
  omega

variable {α : Type} {answer : Nat → Option α} {found : α}

/-- The answer of the innermost node around a node that has one. -/
def firstAround? (tree : Tree) (answer : Nat → Option α) (position : Nat) : Option α :=
  match answer position with
  | some found => some found
  | none =>
    match _found : tree.parent? position with
    | some parent => firstAround? tree answer parent
    | none => none
termination_by position
decreasing_by exact parent?_lt _found

theorem firstAround?_eq_or :
    tree.firstAround? answer node =
      (answer node).or ((tree.parent? node).bind (tree.firstAround? answer)) := by
  rw [firstAround?]
  cases answer node with
  | some found => rfl
  | none =>
    simp only [Option.none_or]
    split
    · next parent upward => simp [upward]
    · next missing => simp [missing]

theorem eq_firstAround? {search : Nat → Option α}
    (goesUp : ∀ node, search node = (answer node).or ((tree.parent? node).bind search)) :
    search node = tree.firstAround? answer node := by
  induction node using Nat.strong_induction_on with
  | _ node inductionHypothesis =>
    rw [goesUp, firstAround?_eq_or]
    cases upward : tree.parent? node with
    | none => rfl
    | some parent =>
      rw [Option.bind_some, Option.bind_some, inductionHypothesis parent (parent?_lt upward)]

/-- **The innermost answer.** A search on the way up finds what some node around the start answers,
while no node further inside has an answer. The induction goes from a node to its parent. -/
theorem firstAround?_eq_some_iff :
    tree.firstAround? answer node = some found ↔
      ∃ around, tree.IsAround around node ∧ answer around = some found ∧
        ∀ closer, tree.IsAbove around closer → tree.IsAround closer node → answer closer = none := by
  induction node using Nat.strong_induction_on with
  | _ node inductionHypothesis =>
    rw [firstAround?_eq_or]
    cases here : answer node with
    | some known =>
      rw [Option.some_or]
      constructor
      · intro same
        refine ⟨node, Or.inl rfl, here.trans same, fun closer lower around => ?_⟩
        exact absurd (lower.trans_isAround around).lt (Nat.lt_irrefl node)
      · rintro ⟨around, rfl | higher, answered, nearest⟩
        · exact here.symm.trans answered
        · simp [nearest node higher (Or.inl rfl)] at here
    | none =>
      rw [Option.none_or]
      cases upward : tree.parent? node with
      | none =>
        refine iff_of_false (by simp) ?_
        rintro ⟨around, rfl | higher, answered, _⟩
        · simp [here] at answered
        · exact not_isAbove_of_orphan upward higher
      | some parent =>
        rw [Option.bind_some, inductionHypothesis parent (parent?_lt upward)]
        have step {around : Nat} : tree.IsAbove around node ↔ tree.IsAround around parent :=
          isAbove_iff_of_parent? upward
        constructor
        · rintro ⟨around, inside, answered, nearest⟩
          refine ⟨around, Or.inr (step.mpr inside), answered, fun closer lower reached => ?_⟩
          rcases reached with rfl | higher
          · exact here
          · exact nearest closer lower (step.mp higher)
        · rintro ⟨around, rfl | higher, answered, nearest⟩
          · simp [here] at answered
          · exact ⟨around, step.mp higher, answered, fun closer lower reached =>
              nearest closer lower (Or.inr (step.mpr reached))⟩

theorem isSome_firstAround?_iff :
    (tree.firstAround? answer node).isSome ↔
      ∃ around, tree.IsAround around node ∧ (answer around).isSome := by
  constructor
  · intro answered
    obtain ⟨found, same⟩ := Option.isSome_iff_exists.mp answered
    obtain ⟨around, inside, answered, _⟩ := firstAround?_eq_some_iff.mp same
    exact ⟨around, inside, by simp [answered]⟩
  · rintro ⟨around, inside, answered⟩
    induction node using Nat.strong_induction_on with
    | _ node inductionHypothesis =>
      rw [firstAround?_eq_or, Option.isSome_or, Bool.or_eq_true]
      rcases inside with rfl | higher
      · exact Or.inl answered
      · cases upward : tree.parent? node with
        | none => exact absurd higher (not_isAbove_of_orphan upward)
        | some parent =>
          exact Or.inr (inductionHypothesis parent (parent?_lt upward)
            ((isAbove_iff_of_parent? upward).mp higher))

end PromiseDetection.Tree

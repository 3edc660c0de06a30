import Mathlib.Data.List.Basic
import Mathlib.Data.List.Find
import PromiseDetection.Code.Returns
import PromiseDetection.Proofs.Tree.Ancestors

/-!
The `return` statements of a function.

A `return` belongs to the innermost function around it. So the values of a function stand in the
`return` statements that an open way leads to from its block, which passes no function, no class and
no other `return`. What stands behind a function or a class on such a way is never looked at, and
two trees that differ there only have the same values.
-/

namespace PromiseDetection.Tree

def OpenWay (tree : Tree) (blocks : Nat → Prop) (top node : Nat) : Prop :=
  tree.IsAbove top node ∧
    ∀ between, tree.IsAbove top between → tree.IsAbove between node → ¬ blocks between

/-- A `return` statement below a node, with no function, class or other `return` between. -/
def OwnReturn (tree : Tree) (top statement : Nat) : Prop :=
  tree.kind statement = .returnStatement ∧
    tree.OpenWay
      (fun between => tree.isFunction between ∨ tree.isClass between ∨
        tree.kind between = .returnStatement)
      top statement

/-- A node below a function that stands in no function and no class inside of it. The functions and
classes that begin there are such nodes themselves. -/
def InScope (tree : Tree) (function node : Nat) : Prop :=
  tree.OpenWay (fun between => tree.beginsReturnScope between) function node

/-- Another tree has the same nodes in the scope of a function, up to their positions. What stands
inside of the functions and classes there may be anything. -/
structure RewritesInside (before after : Tree) (move : Nat → Nat) (function : Nat) : Prop where
  kind : ∀ node, before.InScope function node → after.kind (move node) = before.kind node
  isNamed : ∀ node, before.InScope function node → after.isNamed (move node) = before.isNamed node
  field? : ∀ node, before.InScope function node → after.field? (move node) = before.field? node
  own : after.children (move function) = (before.children function).map move
  children : ∀ node, before.InScope function node → ¬ before.beginsReturnScope node →
    after.children (move node) = (before.children node).map move

variable {tree : Tree} {blocks : Nat → Prop} {top node child statement value function : Nat}

theorem not_isAbove_child (inside : child ∈ tree.children top) (below : tree.IsAbove top node) :
    ¬ tree.IsAbove node child := fun above => by
  have around := (isAbove_iff_of_parent? (parent?_of_mem_children inside)).mp above
  exact absurd below.lt (Nat.not_lt.mpr around.le)

theorem openWay_of_mem_children (inside : child ∈ tree.children top) :
    tree.OpenWay blocks top child :=
  ⟨.single (parent?_of_mem_children inside), fun _ lower higher =>
    absurd higher (not_isAbove_child inside lower)⟩

theorem OpenWay.through (way : tree.OpenWay blocks top node) (passes : ¬ blocks node)
    (inside : child ∈ tree.children node) : tree.OpenWay blocks top child := by
  have found := parent?_of_mem_children inside
  refine ⟨way.1.tail found, fun between lower higher => ?_⟩
  rcases (isAbove_iff_of_parent? found).mp higher with rfl | above
  · exact passes
  · exact way.2 between lower above

theorem openWay_iff :
    tree.OpenWay blocks top node ↔
      ∃ child ∈ tree.children top,
        child = node ∨ (¬ blocks child ∧ tree.OpenWay blocks child node) := by
  constructor
  · rintro ⟨above, free⟩
    obtain ⟨child, inside, around⟩ := above.exists_child
    have found := parent?_of_mem_children inside
    refine ⟨child, inside, around.imp_right fun lower => ?_⟩
    refine ⟨free child (.single found) lower, lower, fun between deeper higher => ?_⟩
    exact free between (isAbove_of_isAround found (Or.inr deeper)) higher
  · rintro ⟨child, inside, rfl | ⟨passes, lower, free⟩⟩
    · exact openWay_of_mem_children inside
    · have found := parent?_of_mem_children inside
      refine ⟨isAbove_of_isAround found (Or.inr lower), fun between below higher => ?_⟩
      rcases isAround_or_isAbove (Or.inr higher) (Or.inr lower) with (rfl | above) | deeper
      · exact passes
      · exact absurd above (not_isAbove_child inside below)
      · exact free between deeper higher

theorem InScope.lt_size (inScope : tree.InScope function node) : node < tree.size := by
  obtain ⟨_, _, found⟩ := Relation.TransGen.tail'_iff.mp inScope.1
  exact lt_size_of_parent? found

instance [DecidablePred blocks] : Decidable (tree.OpenWay blocks top node) :=
  decidable_of_iff
    (tree.IsAbove top node ∧
      ∀ between < node, tree.IsAbove top between → tree.IsAbove between node → ¬ blocks between)
    (and_congr_right fun _ => forall_congr' fun _ =>
      ⟨fun free lower higher => free higher.lt lower higher, fun free _ => free⟩)

instance : Decidable (tree.InScope function node) :=
  inferInstanceAs (Decidable (tree.OpenWay _ function node))

instance (before after : Tree) (move : Nat → Nat) (function : Nat) :
    Decidable (before.RewritesInside after move function) :=
  decidable_of_iff
    (after.children (move function) = (before.children function).map move ∧
      ∀ node < before.size, before.InScope function node →
        after.kind (move node) = before.kind node ∧
        after.isNamed (move node) = before.isNamed node ∧
        after.field? (move node) = before.field? node ∧
        (¬ before.beginsReturnScope node →
          after.children (move node) = (before.children node).map move))
    ⟨fun ⟨own, same⟩ =>
      { own
        kind := fun node inScope => (same node inScope.lt_size inScope).1
        isNamed := fun node inScope => (same node inScope.lt_size inScope).2.1
        field? := fun node inScope => (same node inScope.lt_size inScope).2.2.1
        children := fun node inScope => (same node inScope.lt_size inScope).2.2.2 },
    fun rewrites => ⟨rewrites.own, fun node _ inScope =>
      ⟨rewrites.kind node inScope, rewrites.isNamed node inScope, rewrites.field? node inScope,
        rewrites.children node inScope⟩⟩⟩

theorem returnsBelow_eq :
    tree.returnsBelow top = (tree.children top).flatMap fun child =>
      if tree.beginsReturnScope child then []
      else if tree.kind child = .returnStatement then (tree.firstOperand? child).toList
      else tree.returnsBelow child := by
  rw [returnsBelow]
  simp

theorem not_beginsReturnScope_of_return (kind : tree.kind node = .returnStatement) :
    tree.beginsReturnScope node = false := by
  simp [beginsReturnScope, isFunction, isClass, kind]

theorem ownReturn_iff :
    tree.OwnReturn top statement ↔
      ∃ child ∈ tree.children top, tree.beginsReturnScope child = false ∧
        (tree.kind child = .returnStatement ∧ child = statement ∨
          tree.kind child ≠ .returnStatement ∧ tree.OwnReturn child statement) := by
  rw [OwnReturn, openWay_iff]
  constructor
  · rintro ⟨kind, child, inside, rfl | ⟨passes, way⟩⟩
    · exact ⟨child, inside, not_beginsReturnScope_of_return kind, Or.inl ⟨kind, rfl⟩⟩
    · push Not at passes
      exact ⟨child, inside, by simp [beginsReturnScope, passes.1, passes.2.1],
        Or.inr ⟨passes.2.2, kind, way⟩⟩
  · rintro ⟨child, inside, passes, ⟨kind, rfl⟩ | ⟨other, kind, way⟩⟩
    · exact ⟨kind, child, inside, Or.inl rfl⟩
    · rw [beginsReturnScope, Bool.or_eq_false_iff] at passes
      exact ⟨kind, child, inside, Or.inr ⟨by simp [passes, other], way⟩⟩

/-- The values collected below a node are those of the `return` statements that belong to it. The
induction goes from a node to its children. -/
theorem mem_returnsBelow_iff :
    value ∈ tree.returnsBelow top ↔
      ∃ statement, tree.OwnReturn top statement ∧ tree.firstOperand? statement = some value := by
  induction measure : tree.size - top using Nat.strong_induction_on generalizing top with
  | _ remaining inductionHypothesis =>
    subst measure
    have below {child : Nat} (inside : child ∈ tree.children top) :=
      inductionHypothesis _ (remaining_lt_of_mem_children inside) rfl
    have ownReturn (statement : Nat) : tree.OwnReturn top statement ↔ _ := ownReturn_iff
    rw [returnsBelow_eq, List.mem_flatMap]
    simp only [ownReturn]
    constructor
    · rintro ⟨child, inside, collected⟩
      cases passes : tree.beginsReturnScope child with
      | true => simp [passes] at collected
      | false =>
        by_cases kind : tree.kind child = .returnStatement
        · refine ⟨child, ⟨child, inside, passes, Or.inl ⟨kind, rfl⟩⟩, ?_⟩
          simpa [passes, kind] using collected
        · have deeper : value ∈ tree.returnsBelow child := by simpa [passes, kind] using collected
          obtain ⟨statement, own, operand⟩ := (below inside).mp deeper
          exact ⟨statement, ⟨child, inside, passes, Or.inr ⟨kind, own⟩⟩, operand⟩
    · rintro ⟨statement, ⟨child, inside, passes, ⟨kind, rfl⟩ | ⟨kind, own⟩⟩, operand⟩
      · exact ⟨child, inside, by simp [passes, kind, operand]⟩
      · have deeper := (below inside).mpr ⟨statement, own, operand⟩
        exact ⟨child, inside, by simpa [passes, kind] using deeper⟩

theorem pairwise_children (tree : Tree) (top : Nat) :
    (tree.children top).Pairwise fun first second =>
      ∀ early, tree.IsAround first early → ∀ late, tree.IsAround second late → early < late := by
  have ordered : (tree.children top).Pairwise (· < ·) := by
    exact (List.pairwise_lt_range' _).filter _
  refine ordered.imp_of_mem fun {first second} insideFirst insideSecond before early inFirst late
    inSecond => ?_
  have apart : ¬ tree.IsAbove first second :=
    not_isAbove_child insideSecond (.single (parent?_of_mem_children insideFirst))
  have own := tree.lt_subtreeEnd_self first
  unfold IsAround at inFirst inSecond
  simp only [isAbove_iff] at apart inFirst inSecond
  omega

theorem isAbove_of_mem_returnsBelow (collected : value ∈ tree.returnsBelow top) :
    tree.IsAbove top value := by
  obtain ⟨statement, own, operand⟩ := mem_returnsBelow_iff.mp collected
  exact own.2.1.tail (parent?_of_mem_children (mem_children_of_firstOperand? operand))

theorem pairwise_returnsBelow : (tree.returnsBelow top).Pairwise (· < ·) := by
  induction measure : tree.size - top using Nat.strong_induction_on generalizing top with
  | _ remaining inductionHypothesis =>
    subst measure
    rw [returnsBelow_eq, List.pairwise_flatMap]
    constructor
    · intro child inside
      split
      · exact List.Pairwise.nil
      · split
        · cases tree.firstOperand? child <;> simp
        · exact inductionHypothesis _ (remaining_lt_of_mem_children inside) rfl
    · have within {child value : Nat}
          (collected : value ∈ if tree.beginsReturnScope child then []
            else if tree.kind child = .returnStatement then (tree.firstOperand? child).toList
            else tree.returnsBelow child) : tree.IsAround child value := by
        split at collected
        · simp at collected
        · split at collected
          · have operand : tree.firstOperand? child = some value := by simpa using collected
            exact Or.inr (.single (parent?_of_mem_children (mem_children_of_firstOperand? operand)))
          · exact Or.inr (isAbove_of_mem_returnsBelow collected)
      exact (tree.pairwise_children top).imp fun apart early collected late collectedToo =>
        apart early (within collected) late (within collectedToo)

namespace RewritesInside

variable {before after : Tree} {move : Nat → Nat} (rewrites : before.RewritesInside after move function)

include rewrites

theorem beginsReturnScope (inScope : before.InScope function node) :
    after.beginsReturnScope (move node) = before.beginsReturnScope node := by
  simp only [Tree.beginsReturnScope, isFunction, isClass, rewrites.kind node inScope,
    rewrites.isNamed node inScope]

theorem childWith? (role : Field) :
    after.childWith? (move function) role = (before.childWith? function role).map move := by
  rw [Tree.childWith?, rewrites.own, List.find?_map]
  refine congrArg (Option.map move) (List.find?_congr fun child inside => ?_)
  simp [rewrites.field? child (openWay_of_mem_children inside)]

theorem firstOperand? (inScope : before.InScope function node)
    (passes : ¬ before.beginsReturnScope node) :
    after.firstOperand? (move node) = (before.firstOperand? node).map move := by
  simp only [Tree.firstOperand?, namedChildren, List.find?_filter]
  rw [rewrites.children node inScope passes, List.find?_map]
  refine congrArg (Option.map move) (List.find?_congr fun child inside => ?_)
  have inScopeToo : before.InScope function child := inScope.through passes inside
  simp [rewrites.kind child inScopeToo, rewrites.isNamed child inScopeToo]

theorem returnsBelow (same : after.children (move node) = (before.children node).map move)
    (inScope : ∀ child ∈ before.children node, before.InScope function child) :
    after.returnsBelow (move node) = (before.returnsBelow node).map move := by
  induction measure : before.size - node using Nat.strong_induction_on generalizing node with
  | _ remaining inductionHypothesis =>
    subst measure
    rw [returnsBelow_eq, same, List.flatMap_map, returnsBelow_eq, List.map_flatMap]
    refine List.flatMap_congr fun child inside => ?_
    have own := inScope child inside
    rw [rewrites.beginsReturnScope own, rewrites.kind child own]
    cases passes : before.beginsReturnScope child with
    | true => simp
    | false =>
      have open' : ¬ before.beginsReturnScope child := by simp [passes]
      by_cases kind : before.kind child = .returnStatement
      · simp [kind, rewrites.firstOperand? own open', Option.toList_map]
      · have deeper := inductionHypothesis _ (remaining_lt_of_mem_children inside)
          (rewrites.children child own open') (fun _ lower => own.through open' lower) rfl
        simpa [kind] using deeper

theorem returnedValues :
    after.returnedValues (move function) = (before.returnedValues function).map move := by
  unfold Tree.returnedValues
  rw [rewrites.childWith?]
  cases found : before.childWith? function .body with
  | none => rfl
  | some body =>
    have inside := mem_children_of_childWith? found
    have own : before.InScope function body := openWay_of_mem_children inside
    simp only [Option.map_some, rewrites.kind body own]
    by_cases block : before.kind body = .statementBlock
    · have open' : ¬ before.beginsReturnScope body := by
        simp [Tree.beginsReturnScope, isFunction, isClass, block]
      simpa [block] using rewrites.returnsBelow (rewrites.children body own open')
        fun _ lower => own.through open' lower
    · simp [block]

end RewritesInside

/-- **The returns of a function.** A function without a body has no values, and a body that is no
block is the only one. The values of a block are those of the `return` statements that an open way
leads to from it, in document order and each once. Rewriting the inside of functions and classes
within the function changes none of them. -/
theorem returnedValues_own (tree : Tree) (function : Nat) :
    (tree.childWith? function .body = none → tree.returnedValues function = []) ∧
    (∀ body, tree.childWith? function .body = some body → tree.kind body ≠ .statementBlock →
      tree.returnedValues function = [body]) ∧
    (∀ body, tree.childWith? function .body = some body → tree.kind body = .statementBlock →
      (tree.returnedValues function).Pairwise (· < ·) ∧
      ∀ value, value ∈ tree.returnedValues function ↔
        ∃ statement, tree.OwnReturn body statement ∧ tree.firstOperand? statement = some value) ∧
    (∀ after move, tree.RewritesInside after move function →
      after.returnedValues (move function) = (tree.returnedValues function).map move) := by
  refine ⟨fun missing => ?_, fun body found other => ?_, fun body found block => ?_,
    fun after move rewrites => rewrites.returnedValues⟩
  · simp [returnedValues, missing]
  · simp [returnedValues, found, other]
  · have values : tree.returnedValues function = tree.returnsBelow body := by
      simp [returnedValues, found, block]
    rw [values]
    exact ⟨pairwise_returnsBelow, fun _ => mem_returnsBelow_iff⟩

def arrowInsideNodes : Array Node :=
  #[⟨.program, true, none, 0, 34, none⟩, ⟨.functionDeclaration, true, none, 0, 34, some 0⟩,
    ⟨.functionWord, false, none, 0, 8, some 1⟩, ⟨.identifier, true, some .name, 9, 10, some 1⟩,
    ⟨.other "formal_parameters", true, some .parameters, 10, 12, some 1⟩,
    ⟨.other "(", false, none, 10, 11, some 4⟩, ⟨.other ")", false, none, 11, 12, some 4⟩,
    ⟨.statementBlock, true, some .body, 13, 34, some 1⟩, ⟨.other "\x7b", false, none, 13, 14, some 7⟩,
    ⟨.expressionStatement, true, none, 15, 23, some 7⟩,
    ⟨.arrowFunction, true, none, 15, 22, some 9⟩,
    ⟨.other "formal_parameters", true, some .parameters, 15, 17, some 10⟩,
    ⟨.other "(", false, none, 15, 16, some 11⟩, ⟨.other ")", false, none, 16, 17, some 11⟩,
    ⟨.other "=>", false, none, 18, 20, some 10⟩,
    ⟨.numberLiteral, true, some .body, 21, 22, some 10⟩, ⟨.other ";", false, none, 22, 23, some 9⟩,
    ⟨.returnStatement, true, none, 24, 32, some 7⟩, ⟨.other "return", false, none, 24, 30, some 17⟩,
    ⟨.numberLiteral, true, none, 31, 32, some 17⟩, ⟨.other "\x7d", false, none, 33, 34, some 7⟩]

def blockInsideNodes : Array Node :=
  #[⟨.program, true, none, 0, 45, none⟩, ⟨.functionDeclaration, true, none, 0, 45, some 0⟩,
    ⟨.functionWord, false, none, 0, 8, some 1⟩, ⟨.identifier, true, some .name, 9, 10, some 1⟩,
    ⟨.other "formal_parameters", true, some .parameters, 10, 12, some 1⟩,
    ⟨.other "(", false, none, 10, 11, some 4⟩, ⟨.other ")", false, none, 11, 12, some 4⟩,
    ⟨.statementBlock, true, some .body, 13, 45, some 1⟩, ⟨.other "\x7b", false, none, 13, 14, some 7⟩,
    ⟨.expressionStatement, true, none, 15, 34, some 7⟩,
    ⟨.arrowFunction, true, none, 15, 33, some 9⟩,
    ⟨.other "formal_parameters", true, some .parameters, 15, 17, some 10⟩,
    ⟨.other "(", false, none, 15, 16, some 11⟩, ⟨.other ")", false, none, 16, 17, some 11⟩,
    ⟨.other "=>", false, none, 18, 20, some 10⟩,
    ⟨.statementBlock, true, some .body, 21, 33, some 10⟩,
    ⟨.other "\x7b", false, none, 21, 22, some 15⟩, ⟨.returnStatement, true, none, 23, 31, some 15⟩,
    ⟨.other "return", false, none, 23, 29, some 17⟩, ⟨.numberLiteral, true, none, 30, 31, some 17⟩,
    ⟨.other "\x7d", false, none, 32, 33, some 15⟩, ⟨.other ";", false, none, 33, 34, some 9⟩,
    ⟨.returnStatement, true, none, 35, 43, some 7⟩, ⟨.other "return", false, none, 35, 41, some 22⟩,
    ⟨.numberLiteral, true, none, 42, 43, some 22⟩, ⟨.other "\x7d", false, none, 44, 45, some 7⟩]

def arrowInside : Tree where
  nodes := arrowInsideNodes
  ends := endsOf arrowInsideNodes
  nonempty := by decide +kernel
  ends_size := by decide +kernel
  nested := by decide +kernel

def blockInside : Tree where
  nodes := blockInsideNodes
  ends := endsOf blockInsideNodes
  nonempty := by decide +kernel
  ends_size := by decide +kernel
  nested := by decide +kernel

/-- `function f() { () => 1; return 2 }` and `function f() { () => { return 1 }; return 2 }` return
the same value. -/
theorem returnedValues_own_blockInside :
    arrowInside.returnedValues 1 = [19] ∧ blockInside.returnedValues 1 = [24] := by
  have rewrites : arrowInside.RewritesInside blockInside
      (fun node => if node < 16 then node else node + 5) 1 := by decide +kernel
  have first : arrowInside.returnedValues 1 = [19] := by decide +kernel
  have same := (returnedValues_own arrowInside 1).2.2.2 _ _ rewrites
  rw [first] at same
  exact ⟨first, same⟩

end PromiseDetection.Tree

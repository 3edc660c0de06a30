import PromiseDetection.Code.Binding
import PromiseDetection.Proofs.Tree.Ancestors

/-!
Wrappers around a function and the place that takes its value.

A function is found at its place in two directions. The way up from the function crosses
parentheses, non-null assertions and both sorts of type assertions. Stripping the value goes down
through parentheses and non-null assertions only, each time to the first operand. So what stripping
finds, the way up finds as well, and the two agree on a function and a place exactly if the function
is not below the value in this way, or if all wrappers in between can be stripped down to it.
-/

namespace PromiseDetection.Tree

def IsFunctionExpression (tree : Tree) (position : Nat) : Prop :=
  tree.isFunction position ∧ tree.kind position ≠ .functionDeclaration ∧
    tree.kind position ≠ .generatorDeclaration ∧ tree.kind position ≠ .methodDefinition

/-- A declarator of a variable, a property of an object literal or an assignment to a plain
variable, and its value. -/
inductive Takes (tree : Tree) (place value : Nat) : Prop where
  | declared (kind : tree.kind place = .variableDeclarator)
      (found : tree.childWith? place .value = some value)
  | keyed (kind : tree.kind place = .pair) (found : tree.childWith? place .value = some value)
  | assigned {left : Nat} (kind : tree.kind place = .assignment)
      (found : tree.childWith? place .right = some value)
      (target : tree.childWith? place .left = some left) (plain : tree.kind left = .identifier)

def Climbs (tree : Tree) (outer inner : Nat) : Prop :=
  tree.parent? inner = some outer ∧ isTransparent (tree.kind outer)

/-- A step of stripping: the node inside is what parentheses or a non-null assertion are around. -/
def Strips (tree : Tree) (outer inner : Nat) : Prop :=
  (tree.kind outer = .parenthesized ∨ tree.kind outer = .nonNull) ∧
    tree.firstOperand? outer = some inner

/-- Each wrapper on the way up from a function to a value is stripped down to what the way comes
from. -/
def StripsAll (tree : Tree) (value function : Nat) : Prop :=
  ∀ outer inner, tree.IsAround value outer → tree.Climbs outer inner →
    tree.IsAround inner function → tree.Strips outer inner

variable {tree : Tree} {place value function child parent outer inner other : Nat}

theorem Strips.climbs (strips : tree.Strips outer inner) : tree.Climbs outer inner := by
  refine ⟨parent?_of_mem_children (mem_children_of_firstOperand? strips.2), ?_⟩
  rcases strips.1 with kind | kind <;> simp [isTransparent, kind]

theorem climbs_of_strips (way : Relation.ReflTransGen tree.Strips outer inner) :
    Relation.ReflTransGen tree.Climbs outer inner :=
  way.lift id fun _ _ => Strips.climbs

theorem isAround_of_climbs (way : Relation.ReflTransGen tree.Climbs outer inner) :
    tree.IsAround outer inner := by
  induction way with
  | refl => exact Or.inl rfl
  | tail _ climbs around => exact around.trans (Or.inr (.single climbs.1))

theorem wrapped?_eq_some_iff :
    tree.wrapped? function = some (child, parent) ↔
      Relation.ReflTransGen tree.Climbs child function ∧ tree.parent? child = some parent ∧
        ¬ isTransparent (tree.kind parent) := by
  induction function using Nat.strong_induction_on with
  | _ function inductionHypothesis =>
    rw [wrapped?]
    split
    · next orphan =>
      refine iff_of_false (by simp) ?_
      rintro ⟨way, upward, _⟩
      rcases way.cases_tail with rfl | ⟨_, _, found, _⟩
      · simp [orphan] at upward
      · simp [orphan] at found
    · next above found =>
      split
      · next crossed =>
        rw [inductionHypothesis above (parent?_lt found)]
        refine and_congr_left fun ends => ⟨fun way => way.tail ⟨found, crossed⟩, fun way => ?_⟩
        rcases way.cases_tail with rfl | ⟨last, before, climbs⟩
        · cases found.symm.trans ends.1
          exact absurd crossed ends.2
        · cases found.symm.trans climbs.1
          exact before
      · next stops =>
        simp only [Option.some.injEq, Prod.mk.injEq]
        constructor
        · rintro ⟨rfl, rfl⟩
          exact ⟨.refl, found, stops⟩
        · rintro ⟨way, upward, _⟩
          rcases way.cases_tail with rfl | ⟨last, _, climbs⟩
          · exact ⟨rfl, Option.some.inj (found.symm.trans upward)⟩
          · cases found.symm.trans climbs.1
            exact absurd climbs.2 stops

theorem childWith?_of_made {parent : Nat} {role : Field} {made binder : Binder}
    (bound : (if tree.holds parent role child then some made else none) = some binder) :
    binder = made ∧ tree.childWith? parent role = some child := by
  split at bound <;> cases bound
  next held => exact ⟨rfl, by simpa [holds] using held⟩

theorem wrapped?_of_binder? {binder : Binder} (bound : tree.binder? function = some binder) :
    ∃ child, tree.wrapped? function = some (child, binder.node) ∧
      tree.childWith? binder.node
        (if tree.kind binder.node = .assignment then .right else .value) = some child := by
  simp only [binder?, Option.bind_eq_bind, Option.bind_eq_some_iff] at bound
  obtain ⟨⟨child, parent⟩, wrapped, bound⟩ := bound
  refine ⟨child, ?_⟩
  split at bound
  · next kind =>
    obtain ⟨rfl, held⟩ := childWith?_of_made bound
    exact ⟨wrapped, by simpa [kind] using held⟩
  · next kind =>
    obtain ⟨rfl, held⟩ := childWith?_of_made bound
    exact ⟨wrapped, by simpa [kind] using held⟩
  · next kind =>
    obtain ⟨rfl, held⟩ := childWith?_of_made bound
    exact ⟨wrapped, by simpa [kind] using held⟩
  · next kind =>
    obtain ⟨rfl, held⟩ := childWith?_of_made bound
    exact ⟨wrapped, by simpa [kind] using held⟩
  · next kind =>
    split at bound
    · next held =>
      obtain ⟨left, _, bound⟩ := Option.bind_eq_some_iff.mp bound
      split at bound <;> cases bound <;>
        exact ⟨wrapped, by simpa [kind, holds] using held⟩
    · simp at bound
  · simp at bound

theorem Takes.childWith? (takes : tree.Takes place value) :
    tree.childWith? place (if tree.kind place = .assignment then .right else .value) =
      some value := by
  cases takes with
  | declared kind found => simpa [kind] using found
  | keyed kind found => simpa [kind] using found
  | assigned kind found => simpa [kind] using found

theorem Takes.not_isTransparent (takes : tree.Takes place value) :
    ¬ isTransparent (tree.kind place) := by
  cases takes with
  | declared kind => simp [isTransparent, kind]
  | keyed kind => simp [isTransparent, kind]
  | assigned kind => simp [isTransparent, kind]

theorem Takes.binder? (takes : tree.Takes place value)
    (wrapped : tree.wrapped? function = some (value, place)) :
    (tree.binder? function).map (·.node) = some place := by
  cases takes with
  | declared kind found => simp [Tree.binder?, wrapped, kind, holds, found]
  | keyed kind found => simp [Tree.binder?, wrapped, kind, holds, found]
  | assigned kind found target plain =>
    simp [Tree.binder?, wrapped, kind, holds, found, target, plain]

/-- A place binds a function exactly if the way up from the function comes to its value. -/
theorem binder?_node_iff (takes : tree.Takes place value) :
    (tree.binder? function).map (·.node) = some place ↔
      Relation.ReflTransGen tree.Climbs value function := by
  constructor
  · intro binds
    obtain ⟨binder, bound, rfl⟩ := Option.map_eq_some_iff.mp binds
    obtain ⟨child, wrapped, held⟩ := wrapped?_of_binder? bound
    cases held.symm.trans takes.childWith?
    exact (wrapped?_eq_some_iff.mp wrapped).1
  · intro way
    have upward : tree.parent? value = some place :=
      parent?_of_mem_children (mem_children_of_childWith? takes.childWith?)
    exact takes.binder? (wrapped?_eq_some_iff.mpr ⟨way, upward, takes.not_isTransparent⟩)

/-- Stripping a value comes to a node that is no wrapper itself exactly if each step of the way
strips. The induction goes from a node to its operand. -/
theorem unwrap_eq_iff
    (bare : tree.kind function ≠ .parenthesized) (bare' : tree.kind function ≠ .nonNull) :
    tree.unwrap value = function ↔ Relation.ReflTransGen tree.Strips value function := by
  induction measure : tree.size - value using Nat.strong_induction_on generalizing value with
  | _ remaining inductionHypothesis =>
    subst measure
    have stuck (still : ∀ inner, ¬ tree.Strips value inner) :
        value = function ↔ Relation.ReflTransGen tree.Strips value function := by
      refine ⟨fun same => same ▸ .refl, fun way => ?_⟩
      rcases way.cases_head with same | ⟨inner, strips, _⟩
      · exact same
      · exact absurd strips (still inner)
    have step (kind : tree.kind value = .parenthesized ∨ tree.kind value = .nonNull) {inner : Nat}
        (found : tree.firstOperand? value = some inner) :
        tree.unwrap inner = function ↔ Relation.ReflTransGen tree.Strips value function := by
      rw [inductionHypothesis _ (remaining_lt_of_mem_children (mem_children_of_firstOperand? found))
        rfl]
      refine ⟨fun way => .head ⟨kind, found⟩ way, fun way => ?_⟩
      rcases way.cases_head with rfl | ⟨next, strips, onward⟩
      · exact absurd kind (by simp [bare, bare'])
      · cases found.symm.trans strips.2
        exact onward
    rw [unwrap]
    split
    · next kind =>
      split
      · next inner found => exact step (Or.inl kind) found
      · next missing => exact stuck fun inner strips => by simpa [missing] using strips.2
    · next kind =>
      split
      · next inner found => exact step (Or.inr kind) found
      · next missing => exact stuck fun inner strips => by simpa [missing] using strips.2
    · next notParen notNonNull =>
      exact stuck fun inner strips => strips.1.elim notParen notNonNull

theorem eq_of_parent? (found : tree.parent? inner = some outer)
    (found' : tree.parent? other = some outer) (around : tree.IsAround inner function)
    (around' : tree.IsAround other function) : inner = other := by
  rcases isAround_or_isAbove around around' with (same | above) | above
  · exact same
  · exact absurd ((isAbove_iff_of_parent? found').mp above).le (Nat.not_le.mpr (parent?_lt found))
  · exact absurd ((isAbove_iff_of_parent? found).mp above).le (Nat.not_le.mpr (parent?_lt found'))

/-- A way up is a way of stripping exactly if each wrapper on it is stripped to what the way comes
from. The induction is on the way, from the value inwards. -/
theorem strips_iff_stripsAll (way : Relation.ReflTransGen tree.Climbs value function) :
    Relation.ReflTransGen tree.Strips value function ↔ tree.StripsAll value function := by
  induction way using Relation.ReflTransGen.head_induction_on with
  | refl =>
    refine iff_of_true .refl fun outer inner around climbs inside => ?_
    have below := Nat.lt_of_lt_of_le (parent?_lt climbs.1) inside.le
    exact absurd around.le (Nat.not_le.mpr below)
  | @head value next climbs onward inductionHypothesis =>
    have inside := isAround_of_climbs onward
    have above : tree.IsAbove value next := .single climbs.1
    constructor
    · intro way outer inner around climbs' inside'
      rcases way.cases_head with rfl | ⟨first, strips, rest⟩
      · exact absurd inside.le (Nat.not_le.mpr above.lt)
      have first_eq : first = next := eq_of_parent? strips.climbs.1 climbs.1
        (isAround_of_climbs (climbs_of_strips rest)) inside
      subst first_eq
      rcases around with rfl | lower
      · rwa [eq_of_parent? climbs'.1 climbs.1 inside' inside]
      · have around : tree.IsAround first outer := by
          rcases isAround_or_isAbove inside (Or.inr (isAbove_of_isAround climbs'.1 inside')) with
            around | higher
          · exact around
          · exact absurd ((isAbove_iff_of_parent? climbs.1).mp higher).le (Nat.not_le.mpr lower.lt)
        exact inductionHypothesis.mp rest outer inner around climbs' inside'
    · intro all
      refine .head (all value next (Or.inl rfl) climbs inside) (inductionHypothesis.mpr ?_)
      exact fun outer inner around => all outer inner (Or.inr (above.trans_isAround around))

/-- **Wrappers.** What stripping the value of a place finds, the way up finds as well. So the two
directions agree on a function and a place exactly if, whenever the way up from the function comes
to the value, each wrapper in between is stripped to what the way comes from: it is no type
assertion, and what it is around is its first operand. -/
theorem binder?_iff_unwrap_iff (isFunction : tree.IsFunctionExpression function)
    (takes : tree.Takes place value) :
    (tree.unwrap value = function → (tree.binder? function).map (·.node) = some place) ∧
    (((tree.binder? function).map (·.node) = some place ↔ tree.unwrap value = function) ↔
      (Relation.ReflTransGen tree.Climbs value function → tree.StripsAll value function)) := by
  have bare : tree.kind function ≠ .parenthesized := fun kind => by
    simp [IsFunctionExpression, Tree.isFunction, kind] at isFunction
  have bare' : tree.kind function ≠ .nonNull := fun kind => by
    simp [IsFunctionExpression, Tree.isFunction, kind] at isFunction
  rw [binder?_node_iff takes, unwrap_eq_iff bare bare']
  refine ⟨climbs_of_strips, fun agree way => (strips_iff_stripsAll way).mp (agree.mp way), ?_⟩
  exact fun all => ⟨fun way => (strips_iff_stripsAll way).mpr (all way), climbs_of_strips⟩

def assertedFunctionNodes : Array Node :=
  #[⟨.program, true, none, 0, 57, none⟩, ⟨.lexicalDeclaration, true, none, 0, 45, some 0⟩,
    ⟨.other "const", false, none, 0, 5, some 1⟩, ⟨.variableDeclarator, true, none, 6, 44, some 1⟩,
    ⟨.identifier, true, some .name, 6, 9, some 3⟩, ⟨.other "=", false, none, 10, 11, some 3⟩,
    ⟨.objectLiteral, true, some .value, 12, 44, some 3⟩,
    ⟨.other "\x7b", false, none, 12, 13, some 6⟩, ⟨.pair, true, none, 14, 42, some 6⟩,
    ⟨.propertyIdentifier, true, some .key, 14, 18, some 8⟩,
    ⟨.other ":", false, none, 18, 19, some 8⟩, ⟨.asExpression, true, some .value, 20, 42, some 8⟩,
    ⟨.parenthesized, true, none, 20, 35, some 11⟩, ⟨.other "(", false, none, 20, 21, some 12⟩,
    ⟨.arrowFunction, true, none, 21, 34, some 12⟩, ⟨.asyncWord, false, none, 21, 26, some 14⟩,
    ⟨.other "formal_parameters", true, some .parameters, 27, 29, some 14⟩,
    ⟨.other "(", false, none, 27, 28, some 16⟩, ⟨.other ")", false, none, 28, 29, some 16⟩,
    ⟨.other "=>", false, none, 30, 32, some 14⟩,
    ⟨.numberLiteral, true, some .body, 33, 34, some 14⟩,
    ⟨.other ")", false, none, 34, 35, some 12⟩, ⟨.other "as", false, none, 36, 38, some 11⟩,
    ⟨.predefinedType, true, none, 39, 42, some 11⟩, ⟨.other "any", false, none, 39, 42, some 23⟩,
    ⟨.other "\x7d", false, none, 43, 44, some 6⟩, ⟨.other ";", false, none, 44, 45, some 1⟩,
    ⟨.expressionStatement, true, none, 46, 57, some 0⟩,
    ⟨.callExpression, true, none, 46, 56, some 27⟩,
    ⟨.memberExpression, true, some .callee, 46, 54, some 28⟩,
    ⟨.identifier, true, some .object, 46, 49, some 29⟩, ⟨.other ".", false, none, 49, 50, some 29⟩,
    ⟨.propertyIdentifier, true, some .property, 50, 54, some 29⟩,
    ⟨.other "arguments", true, none, 54, 56, some 28⟩, ⟨.other "(", false, none, 54, 55, some 33⟩,
    ⟨.other ")", false, none, 55, 56, some 33⟩, ⟨.other ";", false, none, 56, 57, some 27⟩]

def assertedFunction : Tree where
  nodes := assertedFunctionNodes
  ends := endsOf assertedFunctionNodes
  nonempty := by decide +kernel
  ends_size := by decide +kernel
  nested := by decide +kernel

theorem isFunctionExpression_assertedFunction : assertedFunction.IsFunctionExpression 14 := by
  have kind : assertedFunction.kind 14 = .arrowFunction := by decide +kernel
  simp [IsFunctionExpression, isFunction, kind]

theorem takes_assertedFunction : assertedFunction.Takes 8 11 :=
  .keyed (by decide +kernel) (by decide +kernel)

theorem binder?_iff_unwrap_iff_assertedFunction :
    assertedFunction.IsFunctionExpression 14 ∧ assertedFunction.Takes 8 11 ∧
      (assertedFunction.unwrap 11 = 14 →
        (assertedFunction.binder? 14).map (·.node) = some 8) ∧
      (((assertedFunction.binder? 14).map (·.node) = some 8 ↔ assertedFunction.unwrap 11 = 14) ↔
        (Relation.ReflTransGen assertedFunction.Climbs 11 14 →
          assertedFunction.StripsAll 11 14)) :=
  ⟨isFunctionExpression_assertedFunction, takes_assertedFunction,
    binder?_iff_unwrap_iff isFunctionExpression_assertedFunction takes_assertedFunction⟩

/-- In `const api = { load: (async () => 1) as any }` the property binds the function, and stripping
the value of the property ends at the type assertion. -/
theorem not_agree_assertedFunction :
    assertedFunction.IsFunctionExpression 14 ∧ assertedFunction.Takes 8 11 ∧
      (assertedFunction.binder? 14).map (·.node) = some 8 ∧ assertedFunction.unwrap 11 = 11 ∧
      ¬ ((assertedFunction.binder? 14).map (·.node) = some 8 ↔
        assertedFunction.unwrap 11 = 14) := by
  have binds : (assertedFunction.binder? 14).map (·.node) = some 8 := by decide +kernel
  have stripped : assertedFunction.unwrap 11 = 11 := by decide +kernel
  refine ⟨isFunctionExpression_assertedFunction, takes_assertedFunction, binds, stripped, ?_⟩
  simp [binds, stripped]

end PromiseDetection.Tree

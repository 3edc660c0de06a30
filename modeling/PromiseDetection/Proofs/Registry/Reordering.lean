import Mathlib.Data.List.Perm.Subperm
import PromiseDetection.Proofs.Registry.Shadowing

/-!
How far the registry depends on the order of the definitions.

The orders of the definitions and the maximal sequences of registrations come to the same: every
settled registry that registrations can reach is collected under some order. Two positive
definitions whose registrations do not disturb each other can be registered in either order. A
registration disturbs another definition only where it makes a class known whose name is also the
name of an instance variable. So the order does not matter exactly if such disturbances can be made
good by later registrations.
-/

namespace PromiseDetection

namespace Registry

/-- The same instances and the same entries, in whatever order they were registered. -/
def Agrees (first second : Registry) : Prop := first.Extends second ∧ second.Extends first

namespace Agrees

theorem refl (registry : Registry) : registry.Agrees registry :=
  ⟨Extends.refl registry, Extends.refl registry⟩

theorem symm {first second : Registry} (agreement : first.Agrees second) : second.Agrees first :=
  ⟨agreement.2, agreement.1⟩

theorem trans {first second third : Registry} (left : first.Agrees second)
    (right : second.Agrees third) : first.Agrees third :=
  ⟨left.1.trans right.1, right.2.trans left.2⟩

theorem contains_eq {first second : Registry} (agreement : first.Agrees second) (entry : Entry) :
    first.contains entry = second.contains entry :=
  Bool.eq_iff_iff.mpr ⟨agreement.2.entries entry, agreement.1.entries entry⟩

theorem register {first second : Registry} (agreement : first.Agrees second) (entry : Entry) :
    (first.register entry).Agrees (second.register entry) := by
  constructor <;> refine ⟨?_, fun other known => ?_⟩
  · simpa using agreement.1.instances
  · rw [contains_register] at known ⊢
    exact known.imp_left (agreement.1.entries other)
  · simpa using agreement.2.instances
  · rw [contains_register] at known ⊢
    exact known.imp_left (agreement.2.entries other)

end Agrees

theorem agrees_register_comm (registry : Registry) (first second : Entry) :
    ((registry.register first).register second).Agrees
      ((registry.register second).register first) := by
  constructor <;> refine ⟨by simp, fun other known => ?_⟩ <;>
    simp only [contains_register] at known ⊢ <;> tauto

theorem register_of_contains {registry : Registry} {entry : Entry}
    (known : registry.contains entry = true) : registry.register entry = registry := by
  simp [register, known]

end Registry

theorem Definition.isPositive_of_agrees (document : Document) {first second : Registry}
    (agreement : first.Agrees second) {definition : Definition}
    (positive : definition.isPositive document first = true) :
    definition.isPositive document second = true := by
  rcases definition.restsOn_isPositive document first positive with
    always | ⟨entry, _, known, found⟩
  · exact always second agreement.1
  · exact found second agreement.1 (agreement.2.entries entry known)

namespace Document

variable {document : Document} {definitions : List Definition}

theorem Reaches.register {registry : Registry} {definition : Definition}
    (recorded : definition ∈ definitions)
    (positive : definition.isPositive document registry = true) :
    document.Reaches definitions registry (registry.register definition.target) := by
  cases known : registry.contains definition.target with
  | true =>
    rw [Registry.register_of_contains known]
    exact Relation.ReflTransGen.refl
  | false => exact Relation.ReflTransGen.single (.register recorded positive known)

theorem Reaches.mono {more : List Definition} (included : definitions ⊆ more)
    {start finish : Registry} (reached : document.Reaches definitions start finish) :
    document.Reaches more start finish := by
  refine Relation.ReflTransGen.mono (fun _ _ step => ?_) _ _ reached
  obtain ⟨definition, recorded, positive, new, rfl⟩ := step.exists_definition
  exact .register (included recorded) positive new

theorem Reaches.of_agrees {start finish other : Registry} (agreement : start.Agrees other)
    (reached : document.Reaches definitions start finish) :
    ∃ counterpart, document.Reaches definitions other counterpart ∧
      finish.Agrees counterpart := by
  induction reached with
  | refl => exact ⟨other, Relation.ReflTransGen.refl, agreement⟩
  | tail _ step inductionHypothesis =>
    obtain ⟨counterpart, reachedOther, agreeing⟩ := inductionHypothesis
    obtain ⟨recorded, positive, _⟩ := step
    refine ⟨_, reachedOther.trans (Reaches.register recorded ?_), agreeing.register _⟩
    exact Definition.isPositive_of_agrees document agreeing positive

theorem Settled.of_agrees {first second : Registry} (agreement : first.Agrees second)
    (settled : document.Settled definitions first) : document.Settled definitions second := by
  intro definition recorded positive
  rw [← agreement.contains_eq]
  exact settled definition recorded
    (Definition.isPositive_of_agrees document agreement.symm positive)

theorem Settled.eq_of_reaches {start finish : Registry}
    (settled : document.Settled definitions start)
    (reached : document.Reaches definitions start finish) : finish = start := by
  induction reached with
  | refl => rfl
  | tail _ step inductionHypothesis =>
    subst inductionHypothesis
    obtain ⟨recorded, positive, new⟩ := step
    simp [settled _ recorded positive] at new

theorem Reaches.exists_run {start finish : Registry}
    (reached : document.Reaches definitions start finish) :
    ∃ run : List Definition, run.Nodup ∧ run ⊆ definitions ∧
      (∀ definition ∈ run, finish.contains definition.target = true) ∧
      ∀ work : Worklist, work.registry = start →
        (run.foldl (Worklist.tryRegister document) work).registry = finish := by
  induction reached with
  | refl => exact ⟨[], by simp, by simp, by simp, fun _ same => same⟩
  | tail _ step inductionHypothesis =>
    obtain ⟨run, distinct, included, registered, performed⟩ := inductionHypothesis
    obtain ⟨definition, recorded, positive, new, rfl⟩ := step.exists_definition
    refine ⟨run ++ [definition], ?_, ?_, ?_, ?_⟩
    · refine List.nodup_append.mpr ⟨distinct, by simp, ?_⟩
      rintro earlier membership _ same rfl
      rw [List.mem_singleton] at same
      simp [same ▸ registered earlier membership] at new
    · exact List.append_subset.mpr ⟨included, by simpa using recorded⟩
    · intro other membership
      rw [Registry.contains_register]
      rcases List.mem_append.mp membership with old | last
      · exact Or.inl (registered other old)
      · exact Or.inr (congrArg Definition.target (List.mem_singleton.mp last))
    · intro work same
      have before := performed work same
      rw [List.foldl_append, List.foldl_cons, List.foldl_nil, Worklist.tryRegister, before]
      simp [positive, new]

theorem Settled.registry_foldl {rest : List Definition} (included : rest ⊆ definitions)
    {work : Worklist} (settled : document.Settled definitions work.registry) :
    (rest.foldl (Worklist.tryRegister document) work).registry = work.registry := by
  induction rest generalizing work with
  | nil => rfl
  | cons definition rest inductionHypothesis =>
    have same : Worklist.tryRegister document work definition = work := by
      unfold Worklist.tryRegister
      have registered := settled definition (included List.mem_cons_self)
      cases positive : definition.isPositive document work.registry with
      | true => simp [registered positive]
      | false => simp
    rw [List.foldl_cons, same]
    exact inductionHypothesis (fun _ membership => included (List.mem_cons_of_mem _ membership))
      settled

theorem settledWork_of_firstPass {start : Registry}
    (settled : document.Settled definitions (document.firstPass start definitions).registry) :
    (document.settledWork start definitions).registry =
      (document.firstPass start definitions).registry :=
  settled.eq_of_reaches (Worklist.covers_firstPass document start definitions).settle.1.reached

/-- Every settled registry that registrations reach is collected under some order of the
definitions: the registrations first, in their order, and then the rest. -/
theorem Settled.exists_order {start finish : Registry}
    (settled : document.Settled definitions finish)
    (reached : document.Reaches definitions start finish) :
    ∃ reordered, definitions.Perm reordered ∧
      (document.settledWork start reordered).registry = finish := by
  obtain ⟨run, distinct, included, _, performed⟩ := reached.exists_run
  obtain ⟨_, sameRun, sub⟩ := List.subperm_of_subset distinct included
  obtain ⟨rest, split⟩ := sub.exists_perm_append
  have order : definitions.Perm (run ++ rest) := split.trans (sameRun.append_right rest)
  have same : (document.firstPass start (run ++ rest)).registry = finish := by
    unfold firstPass
    rw [List.foldl_append]
    have ran := performed ⟨start, [], document.waits start (run ++ rest), 0⟩ rfl
    have included : rest ⊆ definitions :=
      fun _ membership => order.mem_iff.mpr (List.mem_append_right run membership)
    rw [Settled.registry_foldl included (by rwa [ran]), ran]
  refine ⟨run ++ rest, order, ?_⟩
  rw [settledWork_of_firstPass, same]
  rw [same]
  exact fun definition membership => settled definition (order.mem_iff.mpr membership)

theorem exists_settled (document : Document) (definitions : List Definition)
    (registry : Registry) :
    ∃ finish, document.Reaches definitions registry finish ∧
      document.Settled definitions finish :=
  ⟨_, document.reaches_settledWork registry definitions,
    document.settled_settledWork registry definitions⟩

/-- A registry that extends another without making a class known under the name of an instance
variable. -/
structure Widens (later earlier : Registry) : Prop extends later.Extends earlier where
  visible : ∀ name, (earlier.classOfInstance? name).isSome = true →
    later.knowsClass name = true → earlier.knowsClass name = true

theorem isPositive_of_widens (document : Document) {later earlier : Registry}
    (widened : Widens later earlier) {definition : Definition}
    (positive : definition.isPositive document earlier = true) :
    definition.isPositive document later = true := by
  rcases definition.isPositive_or_shadowed document widened.toExtends positive with
    still | ⟨name, shadowed, unknown⟩
  · exact still
  · obtain ⟨method, hidden⟩ := shadowed.exists_hides
    obtain ⟨owner, bound, _⟩ := hidden.bound
    rw [widened.classOfInstance?] at bound
    have visible := widened.visible name (by simp [bound]) hidden.known
    simp [unknown] at visible

def Disturbs (document : Document) (registry : Registry) (entry : Entry)
    (definition : Definition) : Prop :=
  definition.isPositive document registry = true ∧
    definition.isPositive document (registry.register entry) = false

theorem Disturbs.exists_method {registry : Registry} {entry : Entry} {definition : Definition}
    (disturbs : document.Disturbs registry entry definition) :
    ∃ owner method, entry = .method owner method ∧
      (registry.classOfInstance? owner).isSome = true ∧ registry.knowsClass owner = false := by
  by_contra none
  have widened : Widens (registry.register entry) registry := by
    refine ⟨registry.extends_register entry, fun owner bound known => ?_⟩
    obtain ⟨method, registered⟩ := Registry.knowsClass_iff.mp known
    rw [Registry.contains_register] at registered
    rcases registered with old | new
    · exact Registry.knowsClass_iff.mpr ⟨method, old⟩
    · by_contra unknown
      exact none ⟨owner, method, new.symm, bound, by simpa using unknown⟩
  have kept := document.isPositive_of_widens widened disturbs.1
  simp [disturbs.2] at kept

/-- Later registrations make good for every disturbance: whether the disturbing or the disturbed
definition is registered first, the registry can be completed to the same one. -/
def Reconciles (document : Document) (definitions : List Definition) (start : Registry) : Prop :=
  ∀ registry, document.Reaches definitions start registry →
    ∀ first ∈ definitions, ∀ second ∈ definitions,
      first.isPositive document registry = true →
        document.Disturbs registry first.target second →
          ∃ left right,
            document.Reaches definitions (registry.register first.target) left ∧
              document.Reaches definitions (registry.register second.target) right ∧
                left.Agrees right

def openTargets (definitions : List Definition) (registry : Registry) : Nat :=
  definitions.countP fun definition => !registry.contains definition.target

theorem openTargets_register_lt {definition : Definition} {registry : Registry}
    (recorded : definition ∈ definitions)
    (new : registry.contains definition.target = false) :
    openTargets definitions (registry.register definition.target) <
      openTargets definitions registry := by
  have fewer (others : List Definition) :
      openTargets others (registry.register definition.target) ≤ openTargets others registry := by
    apply List.countP_mono_left
    intro other _ remains
    rw [Bool.not_eq_true'] at remains ⊢
    cases known : registry.contains other.target with
    | true => simp [(registry.extends_register definition.target).entries _ known] at remains
    | false => rfl
  obtain ⟨before, after, rfl⟩ := List.append_of_mem recorded
  have registered : (registry.register definition.target).contains definition.target = true :=
    (Registry.contains_register _ _ _).mpr (Or.inr rfl)
  have first := fewer before
  have last := fewer after
  unfold openTargets at first last ⊢
  simp only [List.countP_append, List.countP_cons, new, registered]
  simp
  omega

/-- Two positive definitions can be registered one after the other or else reconciled. -/
theorem Reconciles.join {start registry : Registry}
    (reconciles : document.Reconciles definitions start)
    (reached : document.Reaches definitions start registry) {first second : Definition}
    (recordedFirst : first ∈ definitions) (recordedSecond : second ∈ definitions)
    (positiveFirst : first.isPositive document registry = true)
    (positiveSecond : second.isPositive document registry = true) :
    ∃ left right,
      document.Reaches definitions (registry.register first.target) left ∧
        document.Reaches definitions (registry.register second.target) right ∧
          left.Agrees right := by
  cases keptSecond : second.isPositive document (registry.register first.target) with
  | false =>
    exact reconciles registry reached first recordedFirst second recordedSecond positiveFirst
      ⟨positiveSecond, keptSecond⟩
  | true =>
    cases keptFirst : first.isPositive document (registry.register second.target) with
    | false =>
      obtain ⟨right, left, reachedRight, reachedLeft, agreement⟩ :=
        reconciles registry reached second recordedSecond first recordedFirst positiveSecond
          ⟨positiveFirst, keptFirst⟩
      exact ⟨left, right, reachedLeft, reachedRight, agreement.symm⟩
    | true =>
      exact ⟨_, _, Reaches.register recordedSecond keptSecond,
        Reaches.register recordedFirst keptFirst,
        registry.agrees_register_comm first.target second.target⟩

theorem Reconciles.agrees_of_settled {start : Registry}
    (reconciles : document.Reconciles definitions start) {registry left right : Registry}
    (reached : document.Reaches definitions start registry)
    (reachedLeft : document.Reaches definitions registry left)
    (reachedRight : document.Reaches definitions registry right)
    (settledLeft : document.Settled definitions left)
    (settledRight : document.Settled definitions right) : left.Agrees right := by
  induction bound : openTargets definitions registry using Nat.strong_induction_on
    generalizing registry left right with
  | h remaining inductionHypothesis =>
    rcases reachedLeft.cases_head with rfl | ⟨_, stepLeft, reachedLeft⟩
    · rw [settledLeft.eq_of_reaches reachedRight]
      exact Registry.Agrees.refl _
    rcases reachedRight.cases_head with rfl | ⟨_, stepRight, reachedRight⟩
    · rw [settledRight.eq_of_reaches (.head stepLeft reachedLeft)]
      exact Registry.Agrees.refl _
    obtain ⟨first, recordedFirst, positiveFirst, newFirst, rfl⟩ := stepLeft.exists_definition
    obtain ⟨second, recordedSecond, positiveSecond, newSecond, rfl⟩ := stepRight.exists_definition
    obtain ⟨joinLeft, joinRight, joinsLeft, joinsRight, joined⟩ :=
      reconciles.join reached recordedFirst recordedSecond positiveFirst positiveSecond
    -- The two joined registries are completed alike, and both sides agree with the completion.
    obtain ⟨complete, completed, settled⟩ := document.exists_settled definitions joinLeft
    obtain ⟨counterpart, completedRight, agreeing⟩ := completed.of_agrees joined
    have agreesLeft : left.Agrees complete :=
      inductionHypothesis _ (bound ▸ openTargets_register_lt recordedFirst newFirst)
        (reached.trans (Reaches.register recordedFirst positiveFirst)) reachedLeft
        (joinsLeft.trans completed) settledLeft settled rfl
    have agreesRight : counterpart.Agrees right :=
      inductionHypothesis _ (bound ▸ openTargets_register_lt recordedSecond newSecond)
        (reached.trans (Reaches.register recordedSecond positiveSecond))
        (joinsRight.trans completedRight) reachedRight (settled.of_agrees agreeing) settledRight rfl
    exact (agreesLeft.trans agreeing).trans agreesRight

theorem Reconciles.settledWork_agrees {start : Registry}
    (reconciles : document.Reconciles definitions start) {reordered : List Definition}
    (order : definitions.Perm reordered) :
    (document.settledWork start reordered).registry.Agrees
      (document.settledWork start definitions).registry := by
  have included : reordered ⊆ definitions := fun _ membership => order.mem_iff.mpr membership
  refine reconciles.agrees_of_settled Relation.ReflTransGen.refl
    ((document.reaches_settledWork start reordered).mono included)
    (document.reaches_settledWork start definitions) ?_
    (document.settled_settledWork start definitions)
  intro definition recorded
  exact document.settled_settledWork start reordered definition (order.mem_iff.mp recorded)

theorem reconciles_of_settledWork_agrees {start : Registry}
    (agree : ∀ reordered, definitions.Perm reordered →
      (document.settledWork start reordered).registry.Agrees
        (document.settledWork start definitions).registry) :
    document.Reconciles definitions start := by
  intro registry reached first recordedFirst second recordedSecond positiveFirst disturbs
  -- Whatever was registered first, the completed registry is collected under some order.
  have complete {definition : Definition} (recorded : definition ∈ definitions)
      (positive : definition.isPositive document registry = true) :
      ∃ finish, document.Reaches definitions (registry.register definition.target) finish ∧
        finish.Agrees (document.settledWork start definitions).registry := by
    obtain ⟨finish, completed, settled⟩ :=
      document.exists_settled definitions (registry.register definition.target)
    obtain ⟨reordered, order, same⟩ := settled.exists_order
      ((reached.trans (Reaches.register recorded positive)).trans completed)
    exact ⟨finish, completed, same ▸ agree reordered order⟩
  obtain ⟨left, completedLeft, agreesLeft⟩ := complete recordedFirst positiveFirst
  obtain ⟨right, completedRight, agreesRight⟩ := complete recordedSecond disturbs.1
  exact ⟨left, right, completedLeft, completedRight, agreesLeft.trans agreesRight.symm⟩

/-- **Dependence on the order.** All orders of the definitions give the same registry exactly if
every disturbance on the way is made good. -/
theorem settledWork_agrees_iff_reconciles (document : Document) (start : Registry)
    (definitions : List Definition) :
    (∀ reordered, definitions.Perm reordered →
      (document.settledWork start reordered).registry.Agrees
        (document.settledWork start definitions).registry) ↔
      document.Reconciles definitions start :=
  ⟨reconciles_of_settledWork_agrees, fun reconciles _ order => reconciles.settledWork_agrees order⟩

def shadowingNodes : Array Node :=
  #[⟨.program, true, none, 0, 98, none⟩, ⟨.classDeclaration, true, none, 0, 24, some 0⟩,
    ⟨.classExpression, false, none, 0, 5, some 1⟩,
    ⟨.typeIdentifier, true, some .name, 6, 7, some 1⟩,
    ⟨.classBody, true, some .body, 8, 24, some 1⟩, ⟨.other "\x7b", false, none, 8, 9, some 4⟩,
    ⟨.methodDefinition, true, none, 10, 22, some 4⟩, ⟨.asyncWord, false, none, 10, 15, some 6⟩,
    ⟨.propertyIdentifier, true, some .name, 16, 17, some 6⟩,
    ⟨.other "formal_parameters", true, some .parameters, 17, 19, some 6⟩,
    ⟨.other "(", false, none, 17, 18, some 9⟩, ⟨.other ")", false, none, 18, 19, some 9⟩,
    ⟨.statementBlock, true, some .body, 20, 22, some 6⟩,
    ⟨.other "\x7b", false, none, 20, 21, some 12⟩, ⟨.other "\x7d", false, none, 21, 22, some 12⟩,
    ⟨.other "\x7d", false, none, 23, 24, some 4⟩, ⟨.classDeclaration, true, none, 25, 49, some 0⟩,
    ⟨.classExpression, false, none, 25, 30, some 16⟩,
    ⟨.typeIdentifier, true, some .name, 31, 32, some 16⟩,
    ⟨.classBody, true, some .body, 33, 49, some 16⟩, ⟨.other "\x7b", false, none, 33, 34, some 19⟩,
    ⟨.methodDefinition, true, none, 35, 47, some 19⟩, ⟨.asyncWord, false, none, 35, 40, some 21⟩,
    ⟨.propertyIdentifier, true, some .name, 41, 42, some 21⟩,
    ⟨.other "formal_parameters", true, some .parameters, 42, 44, some 21⟩,
    ⟨.other "(", false, none, 42, 43, some 24⟩, ⟨.other ")", false, none, 43, 44, some 24⟩,
    ⟨.statementBlock, true, some .body, 45, 47, some 21⟩,
    ⟨.other "\x7b", false, none, 45, 46, some 27⟩, ⟨.other "\x7d", false, none, 46, 47, some 27⟩,
    ⟨.other "\x7d", false, none, 48, 49, some 19⟩,
    ⟨.functionDeclaration, true, none, 50, 98, some 0⟩,
    ⟨.functionWord, false, none, 50, 58, some 31⟩,
    ⟨.identifier, true, some .name, 59, 60, some 31⟩,
    ⟨.other "formal_parameters", true, some .parameters, 60, 62, some 31⟩,
    ⟨.other "(", false, none, 60, 61, some 34⟩, ⟨.other ")", false, none, 61, 62, some 34⟩,
    ⟨.statementBlock, true, some .body, 63, 98, some 31⟩,
    ⟨.other "\x7b", false, none, 63, 64, some 37⟩,
    ⟨.lexicalDeclaration, true, none, 65, 83, some 37⟩,
    ⟨.other "const", false, none, 65, 70, some 39⟩,
    ⟨.variableDeclarator, true, none, 71, 82, some 39⟩,
    ⟨.identifier, true, some .name, 71, 72, some 41⟩, ⟨.other "=", false, none, 73, 74, some 41⟩,
    ⟨.newExpression, true, some .value, 75, 82, some 41⟩,
    ⟨.other "new", false, none, 75, 78, some 44⟩,
    ⟨.identifier, true, some .constructed, 79, 80, some 44⟩,
    ⟨.other "arguments", true, none, 80, 82, some 44⟩,
    ⟨.other "(", false, none, 80, 81, some 47⟩, ⟨.other ")", false, none, 81, 82, some 47⟩,
    ⟨.other ";", false, none, 82, 83, some 39⟩, ⟨.returnStatement, true, none, 84, 96, some 37⟩,
    ⟨.other "return", false, none, 84, 90, some 51⟩,
    ⟨.callExpression, true, none, 91, 96, some 51⟩,
    ⟨.memberExpression, true, some .callee, 91, 94, some 53⟩,
    ⟨.identifier, true, some .object, 91, 92, some 54⟩,
    ⟨.other ".", false, none, 92, 93, some 54⟩,
    ⟨.propertyIdentifier, true, some .property, 93, 94, some 54⟩,
    ⟨.other "arguments", true, none, 94, 96, some 53⟩,
    ⟨.other "(", false, none, 94, 95, some 58⟩, ⟨.other ")", false, none, 95, 96, some 58⟩,
    ⟨.other "\x7d", false, none, 97, 98, some 37⟩]

def shadowing : Document where
  text := "class R \x7b async g() \x7b\x7d \x7d\nclass S \x7b async s() \x7b\x7d \x7d\n" ++
    "function f() \x7b const S = new R(); return S.g() \x7d"
  tree :=
    { nodes := shadowingNodes
      ends := Tree.endsOf shadowingNodes
      nonempty := by decide +kernel
      ends_size := by decide +kernel
      nested := by decide +kernel }

theorem instancesOf_shadowing :
    shadowing.instancesOf shadowing.tree.walkOrder =
      { entries := [], instances := [("S", "R")] } := by
  rw [Tree.walkOrder_eq]
  decide +kernel

theorem definitionsOf_shadowing :
    shadowing.definitionsOf shadowing.tree.walkOrder =
      [⟨.method "R" "g", .function 6⟩, ⟨.method "S" "s", .function 21⟩,
        ⟨.function "f", .function 31⟩] := by
  rw [Tree.walkOrder_eq]
  decide +kernel

/-- In the order of the text, `S` is known as a class before the function is judged. With the
function before the second class, `S.g` is found to be a method of `R`. -/
theorem not_agrees_shadowing :
    (shadowing.definitionsOf shadowing.tree.walkOrder).Perm
        [⟨.method "R" "g", .function 6⟩, ⟨.function "f", .function 31⟩,
          ⟨.method "S" "s", .function 21⟩] ∧
      ¬ (shadowing.settledWork (shadowing.instancesOf shadowing.tree.walkOrder)
            [⟨.method "R" "g", .function 6⟩, ⟨.function "f", .function 31⟩,
              ⟨.method "S" "s", .function 21⟩]).registry.Agrees
          (shadowing.settledWork (shadowing.instancesOf shadowing.tree.walkOrder)
            (shadowing.definitionsOf shadowing.tree.walkOrder)).registry := by
  rw [instancesOf_shadowing, definitionsOf_shadowing]
  refine ⟨(List.Perm.swap _ _ []).cons _, fun agreement => ?_⟩
  have known : (shadowing.settledWork { entries := [], instances := [("S", "R")] }
      [⟨.method "R" "g", .function 6⟩, ⟨.function "f", .function 31⟩,
        ⟨.method "S" "s", .function 21⟩]).registry.contains (.function "f") = true := by
    decide +kernel
  have unknown : (shadowing.settledWork { entries := [], instances := [("S", "R")] }
      [⟨.method "R" "g", .function 6⟩, ⟨.method "S" "s", .function 21⟩,
        ⟨.function "f", .function 31⟩]).registry.contains (.function "f") = false := by
    decide +kernel
  simp [agreement.contains_eq, unknown] at known

theorem settledWork_agrees_of_distinct_names {start : Registry}
    (distinct : ∀ definition ∈ definitions, ∀ owner method,
      definition.target = .method owner method → start.classOfInstance? owner = none)
    {reordered : List Definition} (order : definitions.Perm reordered) :
    (document.settledWork start reordered).registry.Agrees
      (document.settledWork start definitions).registry := by
  refine Reconciles.settledWork_agrees ?_ order
  intro registry reached first recorded second _ _ disturbs
  obtain ⟨owner, method, made, bound, _⟩ := disturbs.exists_method
  rw [reached.extends.classOfInstance?, distinct first recorded owner method made] at bound
  simp at bound

end Document

end PromiseDetection

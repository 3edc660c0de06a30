import PromiseDetection.Proofs.Typing.History
import PromiseDetection.Proofs.Typing.Lookup

/-!
What the bound on the levels of inference does to a verdict.

Inference that runs out of levels goes on with less than it would have found. Strict inference loses
its run instead, be it at a question or at a look-up. Where strict inference has a run, inference
with any number of levels more has the same run. Elsewhere the verdict may change with the bound,
and not only from negative to positive.
-/

namespace PromiseDetection

namespace ModuleGraph

def isSpread (graph : ModuleGraph) (place : Site) : Bool :=
  ((graph.tree place.module).parent? place.node).any fun parent =>
    (graph.tree place.module).kind parent = .spreadElement

def awaitsWithin (graph : ModuleGraph) (levels : Nat) : (patience : Nat) → Ty → Bool
  | 0, _ => true
  | patience + 1, .union alternatives => alternatives.all (graph.awaitsWithin levels patience)
  | patience + 1, .named name place =>
    graph.looksWithin levels (.named name place) &&
      match graph.lookThrough levels (.named name place) with
      | .ok next => graph.awaitsWithin levels patience next
      | .error _ => true
  | _ + 1, _ => true

end ModuleGraph

namespace Inquiry

variable {α : Type} {inquiry : Inquiry α} {session : Session} {outcome : α × Session}

def provided (condition : Bool) (inquiry : Inquiry α) : Inquiry α :=
  if condition then inquiry else endless

def accepting (accepts : α → Bool) (inquiry : Inquiry α) : Inquiry α := fun session =>
  (inquiry session).filter fun reached => accepts reached.1

theorem provided_eq_some_iff {condition : Bool} :
    inquiry.provided condition session = some outcome ↔
      condition = true ∧ inquiry session = some outcome := by
  cases condition <;> simp [provided, endless]

theorem accepting_eq_some_iff {accepts : α → Bool} :
    inquiry.accepting accepts session = some outcome ↔
      inquiry session = some outcome ∧ accepts outcome.1 = true :=
  Option.filter_eq_some_iff

end Inquiry

namespace Judgements

def lost : Judgements where
  expression _ := ExceptT.mk .endless
  declaration _ := ExceptT.mk .endless
  member _ _ := ExceptT.mk .endless
  memberOfClass _ _ _ := ExceptT.mk .endless
  signature _ := ExceptT.mk .endless
  functionReturn _ := ExceptT.mk .endless
  thenable _ := .endless
  awaited _ := .endless

def acceptsType (test : Ty → Bool) : Except InferenceError Ty → Bool
  | .ok type => test type
  | .error _ => true

def strictThenable (below : Judgements) (graph : ModuleGraph) (levels : Nat) (type : Ty) :
    Inquiry Bool :=
  (below.thenableStep graph levels type).provided (graph.looksWithin levels type)

/-- The judgements with one level more that lose their run where a look-up lacks levels. The type of
what is spread is looked through, and a member `then` is tested for calls, one level above. -/
def strictStep (patience : Nat) (graph : ModuleGraph) (levels : Nat) (below : Judgements) :
    Judgements where
  expression place :=
    ExceptT.mk ((below.expressionStep graph levels place).run.accepting
      (acceptsType fun type => !graph.isSpread place || graph.looksWithin (levels + 1) type))
  declaration := below.declarationStep graph
  member owner name :=
    ExceptT.mk (((below.memberStep graph levels owner name).run.accepting
      (acceptsType fun type => name != "then" || graph.callsWithin (levels + 1) type)).provided
        (graph.looksWithin levels owner))
  memberOfClass := below.memberOfClassStep graph
  signature callee :=
    ExceptT.mk ((below.signatureStep graph levels callee).run.provided
      (graph.looksWithin levels callee))
  functionReturn := .remembered (below.bodyReturnStep graph)
  thenable := below.strictThenable graph levels
  awaited type :=
    (awaitedBeyond patience graph (levels + 1) (below.strictThenable graph levels) type).provided
      (graph.awaitsWithin (levels + 1) (patience + type.unionDepth) type)

/-- Inference that loses its run where it runs out of levels. -/
def strict (patience : Nat) (graph : ModuleGraph) : Nat → Judgements
  | 0 => lost
  | levels + 1 => strictStep patience graph levels (strict patience graph levels)

/-- What is looked up of the answers of these judgements one level above has levels enough. -/
structure LeavesLevels (graph : ModuleGraph) (levels : Nat) (judgements : Judgements) : Prop where
  spread : ∀ {place session type later}, graph.isSpread place = true →
    (judgements.expression place).run session = some (.ok type, later) →
      graph.looksWithin levels type = true
  continuation : ∀ {owner session type later},
    (judgements.member owner "then").run session = some (.ok type, later) →
      graph.callsWithin levels type = true

theorem leavesLevels_strict (patience : Nat) (graph : ModuleGraph) (levels : Nat) :
    LeavesLevels graph levels (strict patience graph levels) := by
  cases levels with
  | zero => exact ⟨fun _ came => (nomatch came), fun came => (nomatch came)⟩
  | succ levels =>
    constructor
    case spread =>
      intro place session type later spread came
      obtain ⟨_, accepted⟩ := Inquiry.accepting_eq_some_iff.mp came
      simpa [acceptsType, spread] using accepted
    case continuation =>
      intro owner session type later came
      obtain ⟨_, begun⟩ := Inquiry.provided_eq_some_iff.mp came
      obtain ⟨_, accepted⟩ := Inquiry.accepting_eq_some_iff.mp begun
      simpa [acceptsType] using accepted

section

variable {below : Judgements} {graph : ModuleGraph} {levels more : Nat}

theorem elementMembers_of_leavesLevels (leaves : LeavesLevels graph levels below)
    (enough : levels ≤ more) (element : Site) :
    below.elementMembers graph more element = below.elementMembers graph levels element := by
  simp only [elementMembers]
  split
  · rfl
  · rfl
  · rfl
  · next kind =>
    split
    · rfl
    · next inner found =>
      have spread : graph.isSpread (element.withNode inner) = true := by
        have parent : (graph.tree element.module).parent? inner = some element.node :=
          Tree.parent?_of_mem_children (Tree.mem_children_of_firstOperand? found)
        show ((graph.tree element.module).parent? inner).any _ = true
        rw [parent]
        exact decide_eq_true kind
      funext session
      show ((below.expression (element.withNode inner)).run session).bind _ =
        ((below.expression (element.withNode inner)).run session).bind _
      cases came : (below.expression (element.withNode inner)).run session with
      | none => rfl
      | some reached =>
        obtain ⟨result, later⟩ := reached
        cases result with
        | error => rfl
        | ok type =>
          have looks := leaves.spread spread came
          simp only [Option.bind_some, ModuleGraph.lookThrough_of_within looks enough]
  · rfl

theorem expressionStep_of_leavesLevels (leaves : LeavesLevels graph levels below)
    (enough : levels ≤ more) (place : Site) :
    below.expressionStep graph more place = below.expressionStep graph levels place := by
  have members (literal : Site) :
      below.membersOfLiteral graph more literal = below.membersOfLiteral graph levels literal := by
    simp only [membersOfLiteral, elementMembers_of_leavesLevels leaves enough]
  simp only [expressionStep, members]

theorem memberStep_of_within {owner : Ty} {name : String}
    (within : graph.looksWithin levels owner = true) (enough : levels ≤ more) :
    below.memberStep graph more owner name = below.memberStep graph levels owner name := by
  cases owner with
  | named text place =>
    simp only [memberStep, ModuleGraph.lookThrough_of_within within enough]
  | builtin known => cases known <;> rfl
  | _ => rfl

theorem signatureStep_of_within {callee : Ty} (within : graph.looksWithin levels callee = true)
    (enough : levels ≤ more) :
    below.signatureStep graph more callee = below.signatureStep graph levels callee := by
  cases callee with
  | named text place =>
    simp only [signatureStep, ModuleGraph.lookThrough_of_within within enough]
  | builtin known => cases known <;> rfl
  | _ => rfl

theorem callableContinuation_of_leavesLevels (leaves : LeavesLevels graph levels below)
    (enough : levels ≤ more) (type : Ty) :
    (do
      match ← (below.member type "then").attempt with
      | .ok continuation => pure (graph.canBeCalled more continuation)
      | .error _ => pure false : Inquiry Bool) =
    (do
      match ← (below.member type "then").attempt with
      | .ok continuation => pure (graph.canBeCalled levels continuation)
      | .error _ => pure false : Inquiry Bool) := by
  funext session
  show ((below.member type "then").run session).bind _ =
    ((below.member type "then").run session).bind _
  cases came : (below.member type "then").run session with
  | none => rfl
  | some reached =>
    obtain ⟨result, later⟩ := reached
    cases result with
    | error => rfl
    | ok continuation =>
      have calls := leaves.continuation came
      simp only [Option.bind_some, ModuleGraph.canBeCalled_of_within calls enough]

theorem thenableStep_of_within (leaves : LeavesLevels graph levels below) {type : Ty}
    (within : graph.looksWithin levels type = true) (enough : levels ≤ more) :
    below.thenableStep graph more type = below.thenableStep graph levels type := by
  cases type with
  | named text place =>
    simp only [thenableStep, ModuleGraph.lookThrough_of_within within enough]
  | object members => exact callableContinuation_of_leavesLevels leaves enough _
  | instanceOf place => exact callableContinuation_of_leavesLevels leaves enough _
  | _ => rfl

end

end Judgements

theorem awaited_of_within {graph : ModuleGraph} {levels more patience : Nat}
    {thenable : Ty → Inquiry Bool} {type : Ty}
    (within : graph.awaitsWithin levels patience type = true) (enough : levels ≤ more) :
    awaited patience graph more thenable type = awaited patience graph levels thenable type := by
  induction patience generalizing type with
  | zero => rfl
  | succ patience inductionHypothesis =>
    cases type with
    | union alternatives =>
      simp only [ModuleGraph.awaitsWithin, List.all_eq_true] at within
      have same : alternatives.mapM (awaited patience graph more thenable) =
          alternatives.mapM (awaited patience graph levels thenable) :=
        mapM_congr fun next membership => inductionHypothesis (within next membership)
      simp only [awaited, same]
    | named name place =>
      simp only [ModuleGraph.awaitsWithin, Bool.and_eq_true] at within
      simp only [awaited, ModuleGraph.lookThrough_of_within within.1 enough]
      cases found : graph.lookThrough levels (.named name place) with
      | error => rfl
      | ok next =>
        simp only [found] at within
        exact inductionHypothesis within.2
    | _ => rfl

/-- A family whose second member has every run of the first one. -/
def outlasting : Law Bool where
  holds family := ∀ session outcome, family false session = some outcome →
    family true session = some outcome
  ofPure _ _ _ came := came
  ofBind := by
    intro α β first next begun continued session outcome came
    obtain ⟨reached, start, finished⟩ := Option.bind_eq_some_iff.mp came
    exact Option.bind_eq_some_iff.mpr
      ⟨reached, begun session reached start, continued reached.1 reached.2 outcome finished⟩

theorem outlasting_endless {α : Type} : outlasting.holds fun _ => (.endless : Inquiry α) :=
  fun _ _ came => came

namespace Judgements

variable {graph : ModuleGraph}

theorem strictStep_outlasted (patience : Nat) {below : Judgements} {levels more : Nat}
    (leaves : LeavesLevels graph levels below) (enough : levels ≤ more) :
    Lawful outlasting fun index =>
      cond index (step { read := .remembered, await := awaitedBeyond patience } graph
        more below) (strictStep patience graph levels below) := by
  have thenable (type : Ty) : outlasting.holds fun index =>
      cond index (below.thenableStep graph more) (below.strictThenable graph levels) type := by
    intro session outcome came
    obtain ⟨within, begun⟩ := Inquiry.provided_eq_some_iff.mp came
    exact (congrFun (thenableStep_of_within leaves within enough) session).trans begun
  constructor
  case expression =>
    intro place session outcome came
    obtain ⟨begun, _⟩ := Inquiry.accepting_eq_some_iff.mp came
    exact (congrFun (expressionStep_of_leavesLevels leaves enough place) session).trans begun
  case declaration => exact fun _ _ _ came => came
  case member =>
    intro owner name session outcome came
    obtain ⟨within, begun⟩ := Inquiry.provided_eq_some_iff.mp came
    obtain ⟨ran, _⟩ := Inquiry.accepting_eq_some_iff.mp begun
    exact (congrFun (memberStep_of_within within enough) session).trans ran
  case memberOfClass => exact fun _ _ _ _ _ came => came
  case signature =>
    intro callee session outcome came
    obtain ⟨within, begun⟩ := Inquiry.provided_eq_some_iff.mp came
    exact (congrFun (signatureStep_of_within within enough) session).trans begun
  case functionReturn => exact fun _ _ _ came => came
  case thenable =>
    intro type session outcome came
    exact thenable type session outcome came
  case awaited =>
    intro type session outcome came
    obtain ⟨within, begun⟩ := Inquiry.provided_eq_some_iff.mp came
    rw [awaitedBeyond, ← awaited_of_within within (Nat.succ_le_succ enough)] at begun
    exact Law.holds_awaited (Or.inl outlasting_endless) thenable session outcome begun

theorem Lawful.trans_outlasting {first second third : Judgements}
    (one : Lawful outlasting fun index => cond index second first)
    (two : Lawful outlasting fun index => cond index third second) :
    Lawful outlasting fun index => cond index third first where
  expression place session outcome came :=
    two.expression place session outcome (one.expression place session outcome came)
  declaration known session outcome came :=
    two.declaration known session outcome (one.declaration known session outcome came)
  member owner name session outcome came :=
    two.member owner name session outcome (one.member owner name session outcome came)
  memberOfClass owner name isStatic session outcome came :=
    two.memberOfClass owner name isStatic session outcome
      (one.memberOfClass owner name isStatic session outcome came)
  signature callee session outcome came :=
    two.signature callee session outcome (one.signature callee session outcome came)
  functionReturn function session outcome came :=
    two.functionReturn function session outcome (one.functionReturn function session outcome came)
  thenable type session outcome came :=
    two.thenable type session outcome (one.thenable type session outcome came)
  awaited type session outcome came :=
    two.awaited type session outcome (one.awaited type session outcome came)

theorem lawful_outlasting (patience : Nat) (graph : ModuleGraph) :
    Manner.Lawful outlasting graph fun _ : Bool =>
      { read := .remembered, await := awaitedBeyond patience } := by
  apply Manner.lawful_of_read outlasting_endless
  intro reads allowed function session outcome came
  exact Infer.run_remembered_mono (allowed function) came

/-- Inference with more levels has every run of strict inference. -/
theorem strict_outlasted (patience : Nat) (graph : ModuleGraph) (levels extra : Nat) :
    Lawful outlasting fun index =>
      cond index (withLevels { read := .remembered, await := awaitedBeyond patience }
        graph (levels + extra)) (strict patience graph levels) := by
  induction levels with
  | zero =>
    constructor
    case expression => exact fun _ _ _ came => (nomatch came)
    case declaration => exact fun _ _ _ came => (nomatch came)
    case member => exact fun _ _ _ _ came => (nomatch came)
    case memberOfClass => exact fun _ _ _ _ _ came => (nomatch came)
    case signature => exact fun _ _ _ came => (nomatch came)
    case functionReturn => exact fun _ _ _ came => (nomatch came)
    case thenable => exact fun _ _ _ came => (nomatch came)
    case awaited => exact fun _ _ _ came => (nomatch came)
  | succ levels inductionHypothesis =>
    have stepped := strictStep_outlasted patience (leavesLevels_strict patience graph levels)
      (Nat.le_add_right levels extra)
    have above := lawful_step (lawful_outlasting patience graph) inductionHypothesis (levels + extra)
    rw [Nat.add_right_comm]
    apply stepped.trans_outlasting (above.congr _)
    intro index
    cases index <;> rfl

end Judgements

namespace Inference

variable {inference : Inference} {candidate : Candidate} {session : Session}

/-- The answer about a candidate is found without running out of levels on the way. It does not
matter where on the way: a call that is not reached may also hide a cycle, and whether there is one
decides which functions are read again. -/
def StaysWithin (inference : Inference) (candidate : Candidate) (session : Session) : Prop :=
  (((Judgements.strict inference.patience inference.graph inference.levels).answer inference.graph
    candidate).run session).isSome = true

instance (inference : Inference) (candidate : Candidate) (session : Session) :
    Decidable (inference.StaysWithin candidate session) :=
  inferInstanceAs (Decidable (_ = true))

/-- If the verdict on a candidate is positive, then it is so with any number of levels more. -/
def ErrsTowardNegative (inference : Inference) (candidate : Candidate) : Prop :=
  inference.verdictIn? .fresh candidate = some true →
    ∀ levels, inference.levels ≤ levels → ∀ verdict,
      { inference with levels }.verdictIn? .fresh candidate = some verdict → verdict = true

theorem verdictIn_of_staysWithin (stays : inference.StaysWithin candidate session) :
    ∃ verdict, ∀ levels, inference.levels ≤ levels →
      { inference with levels }.verdictIn? session candidate = some verdict := by
  obtain ⟨outcome, came⟩ := Option.isSome_iff_exists.mp stays
  refine ⟨outcome.1, fun levels enough => ?_⟩
  obtain ⟨extra, rfl⟩ := Nat.exists_eq_add_of_le enough
  have outlasted := (Judgements.strict_outlasted inference.patience inference.graph
    inference.levels extra).answer inference.graph candidate session outcome came
  exact Option.map_eq_some_iff.mpr ⟨outcome, outlasted, rfl⟩

/-- **Bounds.** A verdict that is found without running out of levels errs in no direction: it is
the same with any number of levels more. -/
theorem errsTowardNegative_of_staysWithin (stays : inference.StaysWithin candidate .fresh) :
    inference.ErrsTowardNegative candidate ∧
      ∃ verdict, ∀ levels, inference.levels ≤ levels →
        { inference with levels }.verdictIn? .fresh candidate = some verdict := by
  obtain ⟨verdict, always⟩ := verdictIn_of_staysWithin stays
  refine ⟨fun positive levels enough other found => ?_, verdict, always⟩
  have same : verdict = true :=
    Option.some.inj ((always inference.levels (Nat.le_refl _)).symm.trans positive)
  exact (Option.some.inj (found.symm.trans (always levels enough))).trans same

/-- The first of two functions that call each other, and look members of each other up. -/
theorem errsTowardNegative_mutualMember :
    (onGraph mutualMember).StaysWithin { kind := .function, node := 1, name := 3 } .fresh ∧
      (onGraph mutualMember).ErrsTowardNegative { kind := .function, node := 1, name := 3 } ∧
        ∃ verdict, ∀ levels, standardLevels ≤ levels →
          { onGraph mutualMember with levels }.verdictIn? .fresh
            { kind := .function, node := 1, name := 3 } = some verdict := by
  have stays : (onGraph mutualMember).StaysWithin { kind := .function, node := 1, name := 3 }
      .fresh := by
    decide +kernel
  exact ⟨stays, errsTowardNegative_of_staysWithin stays⟩

end Inference

def nestedAwaitNodes : Array Node :=
  #[⟨.program, true, none, 0, 73, none⟩, ⟨.functionDeclaration, true, none, 0, 73, some 0⟩,
    ⟨.functionWord, false, none, 0, 8, some 1⟩, ⟨.identifier, true, some .name, 9, 10, some 1⟩,
    ⟨.other "formal_parameters", true, some .parameters, 10, 12, some 1⟩,
    ⟨.other "(", false, none, 10, 11, some 4⟩, ⟨.other ")", false, none, 11, 12, some 4⟩,
    ⟨.statementBlock, true, some .body, 13, 73, some 1⟩,
    ⟨.other "\x7b", false, none, 13, 14, some 7⟩, ⟨.returnStatement, true, none, 15, 71, some 7⟩,
    ⟨.other "return", false, none, 15, 21, some 9⟩, ⟨.nonNull, true, none, 22, 71, some 9⟩,
    ⟨.nonNull, true, none, 22, 70, some 11⟩, ⟨.nonNull, true, none, 22, 69, some 12⟩,
    ⟨.nonNull, true, none, 22, 68, some 13⟩, ⟨.nonNull, true, none, 22, 67, some 14⟩,
    ⟨.nonNull, true, none, 22, 66, some 15⟩, ⟨.nonNull, true, none, 22, 65, some 16⟩,
    ⟨.nonNull, true, none, 22, 64, some 17⟩, ⟨.nonNull, true, none, 22, 63, some 18⟩,
    ⟨.nonNull, true, none, 22, 62, some 19⟩, ⟨.nonNull, true, none, 22, 61, some 20⟩,
    ⟨.nonNull, true, none, 22, 60, some 21⟩, ⟨.nonNull, true, none, 22, 59, some 22⟩,
    ⟨.nonNull, true, none, 22, 58, some 23⟩, ⟨.nonNull, true, none, 22, 57, some 24⟩,
    ⟨.nonNull, true, none, 22, 56, some 25⟩, ⟨.nonNull, true, none, 22, 55, some 26⟩,
    ⟨.nonNull, true, none, 22, 54, some 27⟩, ⟨.nonNull, true, none, 22, 53, some 28⟩,
    ⟨.nonNull, true, none, 22, 52, some 29⟩, ⟨.nonNull, true, none, 22, 51, some 30⟩,
    ⟨.nonNull, true, none, 22, 50, some 31⟩, ⟨.nonNull, true, none, 22, 49, some 32⟩,
    ⟨.nonNull, true, none, 22, 48, some 33⟩, ⟨.nonNull, true, none, 22, 47, some 34⟩,
    ⟨.nonNull, true, none, 22, 46, some 35⟩, ⟨.nonNull, true, none, 22, 45, some 36⟩,
    ⟨.nonNull, true, none, 22, 44, some 37⟩, ⟨.parenthesized, true, none, 22, 43, some 38⟩,
    ⟨.other "(", false, none, 22, 23, some 39⟩, ⟨.awaitExpression, true, none, 23, 42, some 39⟩,
    ⟨.other "await", false, none, 23, 28, some 41⟩, ⟨.objectLiteral, true, none, 29, 42, some 41⟩,
    ⟨.other "\x7b", false, none, 29, 30, some 43⟩, ⟨.methodDefinition, true, none, 31, 40, some 43⟩,
    ⟨.propertyIdentifier, true, some .name, 31, 35, some 45⟩,
    ⟨.other "formal_parameters", true, some .parameters, 35, 37, some 45⟩,
    ⟨.other "(", false, none, 35, 36, some 47⟩, ⟨.other ")", false, none, 36, 37, some 47⟩,
    ⟨.statementBlock, true, some .body, 38, 40, some 45⟩,
    ⟨.other "\x7b", false, none, 38, 39, some 50⟩, ⟨.other "\x7d", false, none, 39, 40, some 50⟩,
    ⟨.other "\x7d", false, none, 41, 42, some 43⟩, ⟨.other ")", false, none, 42, 43, some 39⟩,
    ⟨.other "!", false, none, 43, 44, some 38⟩, ⟨.other "!", false, none, 44, 45, some 37⟩,
    ⟨.other "!", false, none, 45, 46, some 36⟩, ⟨.other "!", false, none, 46, 47, some 35⟩,
    ⟨.other "!", false, none, 47, 48, some 34⟩, ⟨.other "!", false, none, 48, 49, some 33⟩,
    ⟨.other "!", false, none, 49, 50, some 32⟩, ⟨.other "!", false, none, 50, 51, some 31⟩,
    ⟨.other "!", false, none, 51, 52, some 30⟩, ⟨.other "!", false, none, 52, 53, some 29⟩,
    ⟨.other "!", false, none, 53, 54, some 28⟩, ⟨.other "!", false, none, 54, 55, some 27⟩,
    ⟨.other "!", false, none, 55, 56, some 26⟩, ⟨.other "!", false, none, 56, 57, some 25⟩,
    ⟨.other "!", false, none, 57, 58, some 24⟩, ⟨.other "!", false, none, 58, 59, some 23⟩,
    ⟨.other "!", false, none, 59, 60, some 22⟩, ⟨.other "!", false, none, 60, 61, some 21⟩,
    ⟨.other "!", false, none, 61, 62, some 20⟩, ⟨.other "!", false, none, 62, 63, some 19⟩,
    ⟨.other "!", false, none, 63, 64, some 18⟩, ⟨.other "!", false, none, 64, 65, some 17⟩,
    ⟨.other "!", false, none, 65, 66, some 16⟩, ⟨.other "!", false, none, 66, 67, some 15⟩,
    ⟨.other "!", false, none, 67, 68, some 14⟩, ⟨.other "!", false, none, 68, 69, some 13⟩,
    ⟨.other "!", false, none, 69, 70, some 12⟩, ⟨.other "!", false, none, 70, 71, some 11⟩,
    ⟨.other "\x7d", false, none, 72, 73, some 7⟩]

def nestedAwait : ModuleGraph where
  root :=
    { document :=
        { text := "function f() \x7b return (await \x7b then() \x7b\x7d \x7d)" ++
            "!!!!!!!!!!!!!!!!!!!!!!!!!!!! \x7d"
          tree :=
            { nodes := nestedAwaitNodes
              ends := Tree.endsOf nestedAwaitNodes
              nonempty := by decide +kernel
              ends_size := by decide +kernel
              nested := by decide +kernel } }
      path? := some ⟨"main.ts"⟩
      dialect := .typeScript }
  imports := #[]
  links := []

/-- The test of what is awaited runs out of levels, so the object is kept as if it were not a
promise, and the function gives it. With one level more the object is a promise, and what awaiting
it gives is not known. -/
theorem not_errsTowardNegative_nestedAwait :
    (nestedAwait.tree 0).candidate? 1 = some { kind := .function, node := 1, name := 3 } ∧
      (Inference.onGraph nestedAwait).verdictIn? .fresh
        { kind := .function, node := 1, name := 3 } = some true ∧
      { Inference.onGraph nestedAwait with levels := Inference.standardLevels + 1 }.verdictIn? .fresh
        { kind := .function, node := 1, name := 3 } = some false ∧
      ¬ (Inference.onGraph nestedAwait).ErrsTowardNegative
        { kind := .function, node := 1, name := 3 } := by
  have both : (Inference.onGraph nestedAwait).verdictIn? .fresh
        { kind := .function, node := 1, name := 3 } = some true ∧
      { Inference.onGraph nestedAwait with levels := Inference.standardLevels + 1 }.verdictIn?
        .fresh { kind := .function, node := 1, name := 3 } = some false := by
    decide +kernel
  obtain ⟨positive, negative⟩ := both
  refine ⟨by decide +kernel, positive, negative, fun errs => ?_⟩
  have absurdity := errs positive _ (Nat.le_succ _) false negative
  simp at absurdity

def rereadFunctionNodes : Array Node :=
  #[⟨.program, true, none, 0, 128, none⟩, ⟨.functionDeclaration, true, none, 0, 42, some 0⟩,
    ⟨.functionWord, false, none, 0, 8, some 1⟩, ⟨.identifier, true, some .name, 9, 10, some 1⟩,
    ⟨.other "formal_parameters", true, some .parameters, 10, 12, some 1⟩,
    ⟨.other "(", false, none, 10, 11, some 4⟩, ⟨.other ")", false, none, 11, 12, some 4⟩,
    ⟨.statementBlock, true, some .body, 13, 42, some 1⟩,
    ⟨.other "\x7b", false, none, 13, 14, some 7⟩, ⟨.returnStatement, true, none, 15, 40, some 7⟩,
    ⟨.other "return", false, none, 15, 21, some 9⟩, ⟨.binaryExpression, true, none, 22, 40, some 9⟩,
    ⟨.memberExpression, true, some .left, 22, 27, some 11⟩,
    ⟨.callExpression, true, some .object, 22, 25, some 12⟩,
    ⟨.identifier, true, some .callee, 22, 23, some 13⟩,
    ⟨.other "arguments", true, none, 23, 25, some 13⟩, ⟨.other "(", false, none, 23, 24, some 15⟩,
    ⟨.other ")", false, none, 24, 25, some 15⟩, ⟨.other ".", false, none, 25, 26, some 12⟩,
    ⟨.propertyIdentifier, true, some .property, 26, 27, some 12⟩,
    ⟨.logicalOr, false, some .operator, 28, 30, some 11⟩,
    ⟨.nonNull, true, some .right, 31, 40, some 11⟩, ⟨.nonNull, true, none, 31, 39, some 21⟩,
    ⟨.nonNull, true, none, 31, 38, some 22⟩, ⟨.nonNull, true, none, 31, 37, some 23⟩,
    ⟨.nonNull, true, none, 31, 36, some 24⟩, ⟨.nonNull, true, none, 31, 35, some 25⟩,
    ⟨.callExpression, true, none, 31, 34, some 26⟩,
    ⟨.identifier, true, some .callee, 31, 32, some 27⟩,
    ⟨.other "arguments", true, none, 32, 34, some 27⟩, ⟨.other "(", false, none, 32, 33, some 29⟩,
    ⟨.other ")", false, none, 33, 34, some 29⟩, ⟨.other "!", false, none, 34, 35, some 26⟩,
    ⟨.other "!", false, none, 35, 36, some 25⟩, ⟨.other "!", false, none, 36, 37, some 24⟩,
    ⟨.other "!", false, none, 37, 38, some 23⟩, ⟨.other "!", false, none, 38, 39, some 22⟩,
    ⟨.other "!", false, none, 39, 40, some 21⟩, ⟨.other "\x7d", false, none, 41, 42, some 7⟩,
    ⟨.functionDeclaration, true, none, 43, 89, some 0⟩,
    ⟨.functionWord, false, none, 43, 51, some 39⟩, ⟨.identifier, true, some .name, 52, 53, some 39⟩,
    ⟨.other "formal_parameters", true, some .parameters, 53, 55, some 39⟩,
    ⟨.other "(", false, none, 53, 54, some 42⟩, ⟨.other ")", false, none, 54, 55, some 42⟩,
    ⟨.statementBlock, true, some .body, 56, 89, some 39⟩,
    ⟨.other "\x7b", false, none, 56, 57, some 45⟩, ⟨.returnStatement, true, none, 58, 87, some 45⟩,
    ⟨.other "return", false, none, 58, 64, some 47⟩, ⟨.objectLiteral, true, none, 65, 87, some 47⟩,
    ⟨.other "\x7b", false, none, 65, 66, some 49⟩, ⟨.pair, true, none, 67, 77, some 49⟩,
    ⟨.propertyIdentifier, true, some .key, 67, 68, some 51⟩,
    ⟨.other ":", false, none, 68, 69, some 51⟩,
    ⟨.callExpression, true, some .value, 70, 77, some 51⟩,
    ⟨.identifier, true, some .callee, 70, 75, some 54⟩,
    ⟨.other "arguments", true, none, 75, 77, some 54⟩, ⟨.other "(", false, none, 75, 76, some 56⟩,
    ⟨.other ")", false, none, 76, 77, some 56⟩, ⟨.other ",", false, none, 77, 78, some 49⟩,
    ⟨.pair, true, none, 79, 85, some 49⟩, ⟨.propertyIdentifier, true, some .key, 79, 80, some 60⟩,
    ⟨.other ":", false, none, 80, 81, some 60⟩,
    ⟨.callExpression, true, some .value, 82, 85, some 60⟩,
    ⟨.identifier, true, some .callee, 82, 83, some 63⟩,
    ⟨.other "arguments", true, none, 83, 85, some 63⟩, ⟨.other "(", false, none, 83, 84, some 65⟩,
    ⟨.other ")", false, none, 84, 85, some 65⟩, ⟨.other "\x7d", false, none, 86, 87, some 49⟩,
    ⟨.other "\x7d", false, none, 88, 89, some 45⟩,
    ⟨.functionDeclaration, true, none, 90, 128, some 0⟩,
    ⟨.functionWord, false, none, 90, 98, some 70⟩,
    ⟨.identifier, true, some .name, 99, 100, some 70⟩,
    ⟨.other "formal_parameters", true, some .parameters, 100, 102, some 70⟩,
    ⟨.other "(", false, none, 100, 101, some 73⟩, ⟨.other ")", false, none, 101, 102, some 73⟩,
    ⟨.statementBlock, true, some .body, 103, 128, some 70⟩,
    ⟨.other "\x7b", false, none, 103, 104, some 76⟩,
    ⟨.returnStatement, true, none, 105, 126, some 76⟩,
    ⟨.other "return", false, none, 105, 111, some 78⟩,
    ⟨.binaryExpression, true, none, 112, 126, some 78⟩,
    ⟨.memberExpression, true, some .left, 112, 117, some 80⟩,
    ⟨.callExpression, true, some .object, 112, 115, some 81⟩,
    ⟨.identifier, true, some .callee, 112, 113, some 82⟩,
    ⟨.other "arguments", true, none, 113, 115, some 82⟩,
    ⟨.other "(", false, none, 113, 114, some 84⟩, ⟨.other ")", false, none, 114, 115, some 84⟩,
    ⟨.other ".", false, none, 115, 116, some 81⟩,
    ⟨.propertyIdentifier, true, some .property, 116, 117, some 81⟩,
    ⟨.logicalOr, false, some .operator, 118, 120, some 80⟩,
    ⟨.memberExpression, true, some .right, 121, 126, some 80⟩,
    ⟨.callExpression, true, some .object, 121, 124, some 90⟩,
    ⟨.identifier, true, some .callee, 121, 122, some 91⟩,
    ⟨.other "arguments", true, none, 122, 124, some 91⟩,
    ⟨.other "(", false, none, 122, 123, some 93⟩, ⟨.other ")", false, none, 123, 124, some 93⟩,
    ⟨.other ".", false, none, 124, 125, some 90⟩,
    ⟨.propertyIdentifier, true, some .property, 125, 126, some 90⟩,
    ⟨.other "\x7d", false, none, 127, 128, some 76⟩]

/-- Three functions that call each other. In the first one a call stands below many marks. -/
def rereadFunction : ModuleGraph where
  root :=
    { document :=
        { text := "function a() \x7b return d().y || b()!!!!!! \x7d\n" ++
            "function d() \x7b return \x7b y: fetch(), z: a() \x7d \x7d\n" ++
            "function b() \x7b return a().n || d().z \x7d"
          tree :=
            { nodes := rereadFunctionNodes
              ends := Tree.endsOf rereadFunctionNodes
              nonempty := by decide +kernel
              ends_size := by decide +kernel
              nested := by decide +kernel } }
      path? := some ⟨"main.ts"⟩
      dialect := .typeScript }
  imports := #[]
  links := []

/-- Nothing is awaited, spread or inherited here. With few levels the call of `b` in `a` lies too
deep to be seen, so the type of `a` is remembered while `b` is read. With one level more the call is
a cycle, `a` is read again inside of `d`, and what it gives there is not known. -/
theorem not_errsTowardNegative_rereadFunction :
    { Inference.onGraph rereadFunction with levels := 15 }.verdictIn? .fresh
        { kind := .function, node := 70, name := 72 } = some true ∧
      { Inference.onGraph rereadFunction with levels := 16 }.verdictIn? .fresh
        { kind := .function, node := 70, name := 72 } = some false := by
  decide +kernel

end PromiseDetection

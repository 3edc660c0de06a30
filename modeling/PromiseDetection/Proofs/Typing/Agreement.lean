import PromiseDetection.Proofs.Typing.Declared
import PromiseDetection.Proofs.Typing.Levels

/-!
The verdict on a function against the verdict on a call of it.

Both read the function, but the call has one level less left for its body. So they agree on a
function without the mark `async` if its return type is found without its body, or if reading the
body does not run out of levels. A marked function is positive whatever it gives. A call of it is
judged by the type that it gives, which is a promise unless its head tells otherwise.
-/

namespace PromiseDetection

def Candidate.site (candidate : Candidate) : Site := { node := candidate.node, module := 0 }

/-- The return type of a function is known without its body: it is written down, or the function is
a generator. -/
def Tree.HeadTells (tree : Tree) (function : Nat) : Prop :=
  (tree.childWith? function .returnType).isSome = true ∨ tree.isGenerator function = true

/-- A call in module 0 by a name that refers to a function of module 0. -/
structure ModuleGraph.Calls (graph : ModuleGraph) (call definition : Candidate) (callee : Nat) :
    Prop where
  isCall : call.kind = .call
  isDefinition : definition.kind = .function
  isFunction : (graph.tree 0).isFunction definition.node = true
  called : (graph.tree 0).childWith? call.node .callee = some callee
  identifier : (graph.tree 0).kind callee = .identifier
  refers : graph.valueNamed (graph.textOf { node := callee, module := 0 })
    { node := callee, module := 0 } = .ok (.function definition.site)

theorem ModuleGraph.calls_of_declarationAt {graph : ModuleGraph} {call definition : Candidate}
    {callee : Nat}
    (found : call.kind = .call ∧ definition.kind = .function ∧
      (graph.tree 0).isFunction definition.node = true ∧
      (graph.tree 0).childWith? call.node .callee = some callee ∧
      (graph.tree 0).kind callee = .identifier ∧
      graph.declarationAt? 0 (graph.textOf { node := callee, module := 0 }) .value callee =
        some (.function definition.site)) : graph.Calls call definition callee := by
  obtain ⟨isCall, isDefinition, isFunction, called, identifier, declared⟩ := found
  exact ⟨isCall, isDefinition, isFunction, called, identifier,
    ModuleGraph.valueNamed_of_declarationAt declared⟩

namespace Inference

def freshVerdict? (inference : Inference) (candidate : Candidate) : Option Bool :=
  ((inference.candidateVerdict candidate).run .fresh).map (·.1)

def ReadsWithin (inference : Inference) (levels function : Nat) : Prop :=
  (((Judgements.strict inference.patience inference.graph levels).functionReturn
    { node := function, module := 0 }).run .fresh).isSome = true

instance (inference : Inference) (levels function : Nat) :
    Decidable (inference.ReadsWithin levels function) :=
  inferInstanceAs (Decidable (_ = true))

end Inference

namespace Judgements

section

variable {graph : ModuleGraph} {below : Judgements} {function : Site} {session : Session}

theorem bodyReturnStep_of_headTells
    (tells : (graph.tree function.module).HeadTells function.node) :
    ∃ type, ∀ below : Judgements, below.bodyReturnStep graph function = pure type := by
  cases written : (graph.tree function.module).childWith? function.node .returnType with
  | some clause =>
    exact ⟨_, fun below =>
      bodyReturnStep_of_written (Option.map_eq_some_iff.mpr ⟨clause, written, rfl⟩)⟩
  | none =>
    have generator : (graph.tree function.module).isGenerator function.node = true :=
      tells.resolve_left (by simp [written])
    refine ⟨.primitive (if (graph.tree function.module).isAsync function.node then .asyncGenerator
      else .generator), fun below => ?_⟩
    simp only [bodyReturnStep, written, generator, ↓reduceIte]

theorem exists_ok_of_mapM {ask : Nat → Inquiry Ty} {items : List Nat}
    {outcome : Except InferenceError (List Ty) × Session}
    (came : (items.mapM fun item => (liftM (ask item) : Infer Ty)).run session = some outcome) :
    ∃ types, outcome.1 = .ok types := by
  induction items generalizing session outcome with
  | nil =>
    cases came
    exact ⟨[], rfl⟩
  | cons first rest inductionHypothesis =>
    rw [List.mapM_cons] at came
    obtain ⟨asked, answered, continued⟩ := Option.bind_eq_some_iff.mp came
    obtain ⟨reached, _, lifted⟩ := Option.bind_eq_some_iff.mp answered
    cases lifted
    obtain ⟨⟨result, later⟩, found, finished⟩ := Option.bind_eq_some_iff.mp continued
    obtain ⟨types, given⟩ := inductionHypothesis found
    cases given
    cases finished
    exact ⟨reached.1 :: types, rfl⟩

theorem exists_promise_of_async (async : (graph.tree function.module).isAsync function.node = true)
    (silent : ¬ (graph.tree function.module).HeadTells function.node)
    {outcome : Except InferenceError Ty × Session}
    (came : (below.bodyReturnStep graph function).run session = some outcome) :
    ∃ inner, outcome.1 = .ok (.promise inner) := by
  obtain ⟨unwritten, plain⟩ := not_or.mp silent
  rw [Option.not_isSome_iff_eq_none] at unwritten
  simp only [bodyReturnStep, unwritten, plain, async, ↓reduceIte, Bool.false_eq_true] at came
  obtain ⟨⟨result, reached⟩, returned, continued⟩ := Option.bind_eq_some_iff.mp came
  obtain ⟨types, given⟩ := exists_ok_of_mapM returned
  cases given
  obtain ⟨awaited, answered, finished⟩ := Option.bind_eq_some_iff.mp continued
  obtain ⟨inner, _, lifted⟩ := Option.bind_eq_some_iff.mp answered
  cases lifted
  cases finished
  exact ⟨inner.1, rfl⟩

end

section

variable {graph : ModuleGraph} {call definition : Candidate} {callee levels : Nat} {manner : Manner}

theorem answer_congr {judgements : Judgements} {first second : Candidate} {session : Session}
    (same : (judgements.yields graph first).run session =
      (judgements.yields graph second).run session) :
    (judgements.answer graph first).run session = (judgements.answer graph second).run session := by
  show ((judgements.yields graph first).run session).bind _ =
    ((judgements.yields graph second).run session).bind _
  rw [same]

theorem callReturn_of_calls (calls : graph.Calls call definition callee)
    (defined : graph.textOf { node := callee, module := 0 } ≠ "undefined") :
    (withLevels manner graph (levels + 2)).callReturn graph call.site =
      (withLevels manner graph (levels + 1)).functionReturn definition.site := by
  have declared : (graph.tree 0).kind definition.node ≠ .functionSignature := by
    intro signature
    have function := calls.isFunction
    simp [Tree.isFunction, signature] at function
  have named : (withLevels manner graph (levels + 2)).callReturn graph call.site =
      ((withLevels manner graph (levels + 1)).declaration (.function definition.site) >>=
        (withLevels manner graph (levels + 2)).signature) :=
    callReturn_of_named calls.called calls.identifier defined calls.refers
  have known : (withLevels manner graph (levels + 1)).declaration (.function definition.site) =
      pure (.inferred definition.site) := declaration_of_function declared
  rw [named, known]
  rfl

theorem yields_of_calls (calls : graph.Calls call definition callee)
    (defined : graph.textOf { node := callee, module := 0 } ≠ "undefined") :
    (withLevels manner graph (levels + 2)).yields graph call = (do
      let type ← (withLevels manner graph (levels + 1)).functionReturn definition.site
      (withLevels manner graph (levels + 2)).thenable type) := by
  rw [← callReturn_of_calls calls defined]
  simp only [yields, calls.isCall]
  rfl

theorem yields_of_definition (isDefinition : definition.kind = .function) :
    (withLevels manner graph levels).yields graph definition = (do
      let type ← (withLevels manner graph levels).functionReturn definition.site
      (withLevels manner graph levels).thenable type) := by
  simp only [yields, isDefinition]
  rfl

/-- If a function gives the same with one level less, then the call of it has its answer. -/
theorem answer_of_calls {session : Session} (calls : graph.Calls call definition callee)
    (defined : graph.textOf { node := callee, module := 0 } ≠ "undefined")
    (same : ((withLevels manner graph (levels + 1)).functionReturn definition.site).run session =
      ((withLevels manner graph (levels + 2)).functionReturn definition.site).run session) :
    ((withLevels manner graph (levels + 2)).answer graph call).run session =
      ((withLevels manner graph (levels + 2)).answer graph definition).run session := by
  apply answer_congr
  rw [yields_of_calls calls defined, yields_of_definition calls.isDefinition]
  show (((withLevels manner graph (levels + 1)).functionReturn definition.site).run session).bind _ =
    (((withLevels manner graph (levels + 2)).functionReturn definition.site).run session).bind _
  rw [same]

/-- The call of an `async` function is positive if its answer comes to an end, unless the head of
the function tells otherwise. -/
theorem positive_of_async {inference : Inference} {outcome : Bool × Session}
    (calls : inference.graph.Calls call definition callee)
    (defined : inference.graph.textOf { node := callee, module := 0 } ≠ "undefined")
    (async : (inference.graph.tree 0).isAsync definition.node = true)
    (silent : ¬ (inference.graph.tree 0).HeadTells definition.node)
    (came : ((withLevels inference.manner inference.graph (levels + 2)).answer inference.graph
      call).run .fresh = some outcome) : outcome.1 = true := by
  have yields : (withLevels inference.manner inference.graph (levels + 2)).yields inference.graph
      call = _ := yields_of_calls calls defined
  obtain ⟨answered, asked, _⟩ := Option.bind_eq_some_iff.mp came
  rw [yields] at asked
  obtain ⟨⟨result, later⟩, read, _⟩ := Option.bind_eq_some_iff.mp asked
  have remembered : (Infer.remembered ((withLevels inference.manner inference.graph
      levels).bodyReturnStep inference.graph) definition.site).run .fresh =
        some (result, later) := read
  have unread : Session.fresh.states.lookup definition.site = none := rfl
  simp only [Infer.run_remembered, unread] at remembered
  obtain ⟨reached, ran, closed⟩ := Option.map_eq_some_iff.mp remembered
  obtain ⟨inner, promised⟩ :=
    @exists_promise_of_async inference.graph _ definition.site _ async silent _ ran
  cases closed
  rw [promised] at read
  have positive := answer_of_promise read yields
  rw [came] at positive
  exact congrArg Prod.fst (Option.some.inj positive)

end

end Judgements

namespace Inference

variable {inference : Inference} {candidate : Candidate} {levels function : Nat}

theorem functionReturn_of_headTells (tells : (inference.graph.tree 0).HeadTells function) :
    (Judgements.withLevels inference.manner inference.graph (levels + 1)).functionReturn
        { node := function, module := 0 } =
      (Judgements.withLevels inference.manner inference.graph (levels + 2)).functionReturn
        { node := function, module := 0 } := by
  obtain ⟨type, given⟩ := @Judgements.bodyReturnStep_of_headTells inference.graph
    { node := function, module := 0 } tells
  show Infer.remembered _ _ = Infer.remembered _ _
  simp only [Infer.remembered, given]

theorem functionReturn_of_readsWithin (reads : inference.ReadsWithin (levels + 1) function) :
    ((Judgements.withLevels inference.manner inference.graph (levels + 1)).functionReturn
        { node := function, module := 0 }).run .fresh =
      ((Judgements.withLevels inference.manner inference.graph (levels + 2)).functionReturn
        { node := function, module := 0 }).run .fresh := by
  obtain ⟨outcome, came⟩ := Option.isSome_iff_exists.mp reads
  have outlasted (extra : Nat) :=
    (Judgements.strict_outlasted inference.patience inference.graph (levels + 1)
      extra).functionReturn { node := function, module := 0 } .fresh outcome came
  exact (outlasted 0).trans (outlasted 1).symm

theorem freshVerdict_of_call (isCall : candidate.kind = .call) :
    inference.freshVerdict? candidate = inference.verdictIn? .fresh candidate := by
  simp only [freshVerdict?, candidateVerdict, isCall, verdictIn?]

theorem freshVerdict_of_unmarked (isDefinition : candidate.kind = .function)
    (unmarked : (inference.graph.tree 0).isAsync candidate.node = false) :
    inference.freshVerdict? candidate = inference.verdictIn? .fresh candidate := by
  simp only [freshVerdict?, candidateVerdict, isDefinition, unmarked, Bool.false_eq_true, if_false,
    verdictIn?]

theorem freshVerdict_of_async (isDefinition : candidate.kind = .function)
    (async : (inference.graph.tree 0).isAsync candidate.node = true) :
    inference.freshVerdict? candidate = some true := by
  simp only [freshVerdict?, candidateVerdict, isDefinition, async, if_true]
  rfl

theorem positive_of_calls {call definition : Candidate} {callee : Nat}
    (count : inference.levels = levels + 2)
    (calls : inference.graph.Calls call definition callee)
    (defined : inference.graph.textOf { node := callee, module := 0 } ≠ "undefined")
    (async : (inference.graph.tree 0).isAsync definition.node = true)
    (silent : ¬ (inference.graph.tree 0).HeadTells definition.node) (verdict : Bool)
    (given : inference.verdictIn? .fresh call = some verdict) : verdict = true := by
  obtain ⟨outcome, came, rfl⟩ := Option.map_eq_some_iff.mp given
  rw [answer, judgements, count] at came
  exact Judgements.positive_of_async calls defined async silent came

section

variable {graph : ModuleGraph} {call definition : Candidate} {callee : Nat}

/-- The call is judged as the function is if its `async` mark is left out of account. -/
theorem verdictIn_of_calls (calls : graph.Calls call definition callee)
    (defined : graph.textOf { node := callee, module := 0 } ≠ "undefined")
    (found : (graph.tree 0).HeadTells definition.node ∨
      (onGraph graph).ReadsWithin (standardLevels - 1) definition.node) :
    (onGraph graph).verdictIn? .fresh call = (onGraph graph).verdictIn? .fresh definition := by
  have same : ((Judgements.withLevels (onGraph graph).manner graph
        (standardLevels - 1)).functionReturn definition.site).run .fresh =
      ((Judgements.withLevels (onGraph graph).manner graph standardLevels).functionReturn
        definition.site).run .fresh := by
    rcases found with tells | reads
    · exact congrArg (fun given : Infer Ty => given.run .fresh)
        (@functionReturn_of_headTells (onGraph graph) (standardLevels - 2) _ tells)
    · exact @functionReturn_of_readsWithin (onGraph graph) (standardLevels - 2) _ reads
  exact congrArg (Option.map Prod.fst) (Judgements.answer_of_calls calls defined same)

/-- **Definitions and calls.** A function without the mark `async` has the verdict of every call
that names it, if its head tells its return type or its body is read without running out of the
levels that the call leaves. A marked function is positive. A call of it is judged as the function
would be without its mark if the head tells the return type, and else it is positive whenever the
verdict on it comes to an end. A callee that is `undefined` names nothing. -/
theorem freshVerdict_of_calls (calls : graph.Calls call definition callee)
    (defined : graph.textOf { node := callee, module := 0 } ≠ "undefined") :
    ((graph.tree 0).isAsync definition.node = false →
      (graph.tree 0).HeadTells definition.node ∨
        (onGraph graph).ReadsWithin (standardLevels - 1) definition.node →
      (onGraph graph).freshVerdict? call = (onGraph graph).freshVerdict? definition) ∧
    ((graph.tree 0).isAsync definition.node = true →
      (onGraph graph).freshVerdict? definition = some true ∧
      ((graph.tree 0).HeadTells definition.node →
        (onGraph graph).freshVerdict? call = (onGraph graph).verdictIn? .fresh definition) ∧
      (¬ (graph.tree 0).HeadTells definition.node → ∀ verdict,
        (onGraph graph).freshVerdict? call = some verdict → verdict = true)) := by
  rw [freshVerdict_of_call calls.isCall]
  constructor
  · intro unmarked found
    rw [@freshVerdict_of_unmarked (onGraph graph) definition calls.isDefinition unmarked]
    exact verdictIn_of_calls calls defined found
  · intro async
    refine ⟨@freshVerdict_of_async (onGraph graph) definition calls.isDefinition async,
      fun tells => verdictIn_of_calls calls defined (Or.inl tells), fun silent => ?_⟩
    exact @positive_of_calls (onGraph graph) (standardLevels - 2) call definition callee rfl calls
      defined async silent

end

end Inference

def asyncFunctionsNodes : Array Node :=
  #[⟨.program, true, none, 0, 88, none⟩, ⟨.generatorDeclaration, true, none, 0, 22, some 0⟩,
    ⟨.asyncWord, false, none, 0, 5, some 1⟩, ⟨.functionWord, false, none, 6, 14, some 1⟩,
    ⟨.star, false, none, 14, 15, some 1⟩, ⟨.identifier, true, some .name, 16, 17, some 1⟩,
    ⟨.other "formal_parameters", true, some .parameters, 17, 19, some 1⟩,
    ⟨.other "(", false, none, 17, 18, some 6⟩, ⟨.other ")", false, none, 18, 19, some 6⟩,
    ⟨.statementBlock, true, some .body, 20, 22, some 1⟩,
    ⟨.other "\x7b", false, none, 20, 21, some 9⟩, ⟨.other "\x7d", false, none, 21, 22, some 9⟩,
    ⟨.functionDeclaration, true, none, 23, 52, some 0⟩, ⟨.asyncWord, false, none, 23, 28, some 12⟩,
    ⟨.functionWord, false, none, 29, 37, some 12⟩,
    ⟨.identifier, true, some .name, 38, 39, some 12⟩,
    ⟨.other "formal_parameters", true, some .parameters, 39, 41, some 12⟩,
    ⟨.other "(", false, none, 39, 40, some 16⟩, ⟨.other ")", false, none, 40, 41, some 16⟩,
    ⟨.annotatedType, true, some .returnType, 41, 49, some 12⟩,
    ⟨.other ":", false, none, 41, 42, some 19⟩, ⟨.predefinedType, true, none, 43, 49, some 19⟩,
    ⟨.numberLiteral, false, none, 43, 49, some 21⟩,
    ⟨.statementBlock, true, some .body, 50, 52, some 12⟩,
    ⟨.other "\x7b", false, none, 50, 51, some 23⟩, ⟨.other "\x7d", false, none, 51, 52, some 23⟩,
    ⟨.functionDeclaration, true, none, 53, 74, some 0⟩, ⟨.asyncWord, false, none, 53, 58, some 26⟩,
    ⟨.functionWord, false, none, 59, 67, some 26⟩,
    ⟨.identifier, true, some .name, 68, 69, some 26⟩,
    ⟨.other "formal_parameters", true, some .parameters, 69, 71, some 26⟩,
    ⟨.other "(", false, none, 69, 70, some 30⟩, ⟨.other ")", false, none, 70, 71, some 30⟩,
    ⟨.statementBlock, true, some .body, 72, 74, some 26⟩,
    ⟨.other "\x7b", false, none, 72, 73, some 33⟩, ⟨.other "\x7d", false, none, 73, 74, some 33⟩,
    ⟨.expressionStatement, true, none, 75, 79, some 0⟩,
    ⟨.callExpression, true, none, 75, 78, some 36⟩,
    ⟨.identifier, true, some .callee, 75, 76, some 37⟩,
    ⟨.other "arguments", true, none, 76, 78, some 37⟩, ⟨.other "(", false, none, 76, 77, some 39⟩,
    ⟨.other ")", false, none, 77, 78, some 39⟩, ⟨.other ";", false, none, 78, 79, some 36⟩,
    ⟨.expressionStatement, true, none, 80, 84, some 0⟩,
    ⟨.callExpression, true, none, 80, 83, some 43⟩,
    ⟨.identifier, true, some .callee, 80, 81, some 44⟩,
    ⟨.other "arguments", true, none, 81, 83, some 44⟩, ⟨.other "(", false, none, 81, 82, some 46⟩,
    ⟨.other ")", false, none, 82, 83, some 46⟩, ⟨.other ";", false, none, 83, 84, some 43⟩,
    ⟨.expressionStatement, true, none, 85, 88, some 0⟩,
    ⟨.callExpression, true, none, 85, 88, some 50⟩,
    ⟨.identifier, true, some .callee, 85, 86, some 51⟩,
    ⟨.other "arguments", true, none, 86, 88, some 51⟩, ⟨.other "(", false, none, 86, 87, some 53⟩,
    ⟨.other ")", false, none, 87, 88, some 53⟩]

/-- Three `async` functions, and a call of each. The first one is a generator, the second one
declares a number, and the third one gives nothing. -/
def asyncFunctions : ModuleGraph where
  root :=
    { document :=
        { text := "async function* a() \x7b\x7d\nasync function b(): number \x7b\x7d\n" ++
            "async function c() \x7b\x7d\na();\nb();\nc()"
          tree :=
            { nodes := asyncFunctionsNodes
              ends := Tree.endsOf asyncFunctionsNodes
              nonempty := by decide +kernel
              ends_size := by decide +kernel
              nested := by decide +kernel } }
      path? := some ⟨"main.ts"⟩
      dialect := .typeScript }
  imports := #[]
  links := []

theorem calls_asyncFunctions :
    asyncFunctions.Calls { kind := .call, node := 37, name := 38 }
      { kind := .function, node := 1, name := 5 } 38 :=
  ModuleGraph.calls_of_declarationAt (by decide +kernel)

/-- The second of two functions that call each other and the call of it in the first one, an `async`
generator and its call, and a plain `async` function and its call. -/
theorem Inference.freshVerdict_of_calls_mutualMember :
    (mutualMember.Calls { kind := .call, node := 13, name := 14 }
        { kind := .function, node := 20, name := 22 } 14 ∧
      mutualMember.textOf { node := 14, module := 0 } ≠ "undefined" ∧
      (mutualMember.tree 0).isAsync 20 = false ∧
      (onGraph mutualMember).ReadsWithin (standardLevels - 1) 20 ∧
      (onGraph mutualMember).freshVerdict? { kind := .call, node := 13, name := 14 } =
        (onGraph mutualMember).freshVerdict? { kind := .function, node := 20, name := 22 }) ∧
    (asyncFunctions.Calls { kind := .call, node := 37, name := 38 }
        { kind := .function, node := 1, name := 5 } 38 ∧
      asyncFunctions.textOf { node := 38, module := 0 } ≠ "undefined" ∧
      (asyncFunctions.tree 0).isAsync 1 = true ∧
      (asyncFunctions.tree 0).HeadTells 1 ∧
      (onGraph asyncFunctions).freshVerdict? { kind := .function, node := 1, name := 5 } = some true ∧
      (onGraph asyncFunctions).freshVerdict? { kind := .call, node := 37, name := 38 } =
        (onGraph asyncFunctions).verdictIn? .fresh { kind := .function, node := 1, name := 5 }) ∧
    asyncFunctions.Calls { kind := .call, node := 51, name := 52 }
        { kind := .function, node := 26, name := 29 } 52 ∧
      asyncFunctions.textOf { node := 52, module := 0 } ≠ "undefined" ∧
      (asyncFunctions.tree 0).isAsync 26 = true ∧
      ¬ (asyncFunctions.tree 0).HeadTells 26 ∧
      ∃ verdict, (onGraph asyncFunctions).freshVerdict? { kind := .call, node := 51, name := 52 } =
        some verdict ∧ verdict = true := by
  have plainCalls : mutualMember.Calls { kind := .call, node := 13, name := 14 }
      { kind := .function, node := 20, name := 22 } 14 :=
    ModuleGraph.calls_of_declarationAt (by decide +kernel)
  have plainDefined : mutualMember.textOf { node := 14, module := 0 } ≠ "undefined" := by
    decide +kernel
  have unmarked : (mutualMember.tree 0).isAsync 20 = false := by decide +kernel
  have reads : (onGraph mutualMember).ReadsWithin (standardLevels - 1) 20 := by decide +kernel
  have generatorDefined : asyncFunctions.textOf { node := 38, module := 0 } ≠ "undefined" := by
    decide +kernel
  have generatorAsync : (asyncFunctions.tree 0).isAsync 1 = true := by decide +kernel
  have tells : (asyncFunctions.tree 0).HeadTells 1 := Or.inr (by decide +kernel)
  obtain ⟨positive, judged, _⟩ :=
    (freshVerdict_of_calls calls_asyncFunctions generatorDefined).2 generatorAsync
  have asyncCalls : asyncFunctions.Calls { kind := .call, node := 51, name := 52 }
      { kind := .function, node := 26, name := 29 } 52 :=
    ModuleGraph.calls_of_declarationAt (by decide +kernel)
  have asyncDefined : asyncFunctions.textOf { node := 52, module := 0 } ≠ "undefined" := by
    decide +kernel
  have async : (asyncFunctions.tree 0).isAsync 26 = true := by decide +kernel
  have silent : ¬ (asyncFunctions.tree 0).HeadTells 26 := by
    rw [Tree.HeadTells]
    decide +kernel
  have ends : ((onGraph asyncFunctions).freshVerdict?
      { kind := .call, node := 51, name := 52 }).isSome = true := by decide +kernel
  obtain ⟨verdict, given⟩ := Option.isSome_iff_exists.mp ends
  exact ⟨⟨plainCalls, plainDefined, unmarked, reads,
      (freshVerdict_of_calls plainCalls plainDefined).1 unmarked (Or.inr reads)⟩,
    ⟨calls_asyncFunctions, generatorDefined, generatorAsync, tells, positive, judged tells⟩,
    asyncCalls, asyncDefined, async, silent, verdict, given,
    ((freshVerdict_of_calls asyncCalls asyncDefined).2 async).2.2 silent verdict given⟩

def alternatingNodes : Array Node :=
  #[⟨.program, true, none, 0, 76, none⟩, ⟨.lexicalDeclaration, true, none, 0, 43, some 0⟩,
    ⟨.other "const", false, none, 0, 5, some 1⟩, ⟨.variableDeclarator, true, none, 6, 43, some 1⟩,
    ⟨.identifier, true, some .name, 6, 7, some 3⟩, ⟨.other "=", false, none, 8, 9, some 3⟩,
    ⟨.memberExpression, true, some .value, 10, 43, some 3⟩,
    ⟨.nonNull, true, some .object, 10, 37, some 6⟩, ⟨.parenthesized, true, none, 10, 36, some 7⟩,
    ⟨.other "(", false, none, 10, 11, some 8⟩, ⟨.awaitExpression, true, none, 11, 35, some 8⟩,
    ⟨.other "await", false, none, 11, 16, some 10⟩, ⟨.objectLiteral, true, none, 17, 35, some 10⟩,
    ⟨.other "\x7b", false, none, 17, 18, some 12⟩, ⟨.pair, true, none, 19, 26, some 12⟩,
    ⟨.propertyIdentifier, true, some .key, 19, 23, some 14⟩,
    ⟨.other ":", false, none, 23, 24, some 14⟩, ⟨.identifier, true, some .value, 25, 26, some 14⟩,
    ⟨.other ",", false, none, 26, 27, some 12⟩, ⟨.shorthandProperty, true, none, 28, 33, some 12⟩,
    ⟨.other "\x7d", false, none, 34, 35, some 12⟩, ⟨.other ")", false, none, 35, 36, some 8⟩,
    ⟨.other "!", false, none, 36, 37, some 7⟩, ⟨.other ".", false, none, 37, 38, some 6⟩,
    ⟨.propertyIdentifier, true, some .property, 38, 43, some 6⟩,
    ⟨.functionDeclaration, true, none, 44, 72, some 0⟩,
    ⟨.functionWord, false, none, 44, 52, some 25⟩,
    ⟨.identifier, true, some .name, 53, 54, some 25⟩,
    ⟨.other "formal_parameters", true, some .parameters, 54, 56, some 25⟩,
    ⟨.other "(", false, none, 54, 55, some 28⟩, ⟨.other ")", false, none, 55, 56, some 28⟩,
    ⟨.statementBlock, true, some .body, 57, 72, some 25⟩,
    ⟨.other "\x7b", false, none, 57, 58, some 31⟩, ⟨.returnStatement, true, none, 59, 70, some 31⟩,
    ⟨.other "return", false, none, 59, 65, some 33⟩, ⟨.nonNull, true, none, 66, 70, some 33⟩,
    ⟨.callExpression, true, none, 66, 69, some 35⟩,
    ⟨.identifier, true, some .callee, 66, 67, some 36⟩,
    ⟨.other "arguments", true, none, 67, 69, some 36⟩, ⟨.other "(", false, none, 67, 68, some 38⟩,
    ⟨.other ")", false, none, 68, 69, some 38⟩, ⟨.other "!", false, none, 69, 70, some 35⟩,
    ⟨.other "\x7d", false, none, 71, 72, some 31⟩,
    ⟨.expressionStatement, true, none, 73, 76, some 0⟩,
    ⟨.callExpression, true, none, 73, 76, some 43⟩,
    ⟨.identifier, true, some .callee, 73, 74, some 44⟩,
    ⟨.other "arguments", true, none, 74, 76, some 44⟩, ⟨.other "(", false, none, 74, 75, some 46⟩,
    ⟨.other ")", false, none, 75, 76, some 46⟩]

/-- A variable that is `fetch` if it is nothing that can be called some levels deeper, and is not
known otherwise. A function returns what calling the variable gives. -/
def alternating : ModuleGraph where
  root :=
    { document :=
        { text := "const v = (await \x7b then: v, fetch \x7d)!.fetch\n" ++
            "function c() \x7b return v()! \x7d\nc()"
          tree :=
            { nodes := alternatingNodes
              ends := Tree.endsOf alternatingNodes
              nonempty := by decide +kernel
              ends_size := by decide +kernel
              nested := by decide +kernel } }
      path? := some ⟨"main.ts"⟩
      dialect := .typeScript }
  imports := #[]
  links := []

/-- The function has a verdict, and the call of it has the opposite one. -/
structure ModuleGraph.Differs (graph : ModuleGraph) (call definition : Candidate) (callee : Nat)
    (verdict : Bool) : Prop where
  calls : graph.Calls call definition callee
  onDefinition : (Inference.onGraph graph).freshVerdict? definition = some verdict
  onCall : (Inference.onGraph graph).freshVerdict? call = some !verdict

/-- What a generator gives is not a promise, nor is a number, whatever the mark of the function
says. Whether the variable can be called depends on the levels that are left, and the call has one
less. A function with the name `undefined` cannot be called by its name. -/
theorem not_freshVerdict_of_calls :
    asyncFunctions.Differs { kind := .call, node := 37, name := 38 }
        { kind := .function, node := 1, name := 5 } 38 true ∧
      asyncFunctions.Differs { kind := .call, node := 44, name := 45 }
        { kind := .function, node := 12, name := 15 } 45 true ∧
      alternating.Differs { kind := .call, node := 44, name := 45 }
        { kind := .function, node := 25, name := 27 } 45 false ∧
      undefinedPromise.Differs { kind := .call, node := 22, name := 23 }
        { kind := .function, node := 1, name := 3 } 23 true ∧
      ¬ ∀ (graph : ModuleGraph) (call definition : Candidate) (callee : Nat),
        graph.Calls call definition callee →
          (Inference.onGraph graph).freshVerdict? call =
            (Inference.onGraph graph).freshVerdict? definition := by
  have generator : asyncFunctions.Differs { kind := .call, node := 37, name := 38 }
      { kind := .function, node := 1, name := 5 } 38 true :=
    ⟨calls_asyncFunctions, by decide +kernel, by decide +kernel⟩
  have number : asyncFunctions.Differs { kind := .call, node := 44, name := 45 }
      { kind := .function, node := 12, name := 15 } 45 true :=
    ⟨ModuleGraph.calls_of_declarationAt (by decide +kernel), by decide +kernel, by decide +kernel⟩
  have levels : alternating.Differs { kind := .call, node := 44, name := 45 }
      { kind := .function, node := 25, name := 27 } 45 false :=
    ⟨ModuleGraph.calls_of_declarationAt (by decide +kernel), by decide +kernel, by decide +kernel⟩
  have undefined : undefinedPromise.Differs { kind := .call, node := 22, name := 23 }
      { kind := .function, node := 1, name := 3 } 23 true :=
    ⟨ModuleGraph.calls_of_declarationAt (by decide +kernel), by decide +kernel, by decide +kernel⟩
  refine ⟨generator, number, levels, undefined, fun agree => ?_⟩
  have same := agree asyncFunctions _ _ 38 generator.calls
  rw [generator.onDefinition, generator.onCall] at same
  simp at same

end PromiseDetection

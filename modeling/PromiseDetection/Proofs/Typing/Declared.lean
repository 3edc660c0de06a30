import PromiseDetection.Heuristic.Judgement
import PromiseDetection.Proofs.Typing.Stack

/-!
Both ways of judging agree on declared promises.

A session remembers nothing about an annotated function but what its annotation says, whatever was
asked before. An annotation that the heuristic takes for a promise is read as a promise, so
inference finds the function positive too, and every call that names it.
-/

namespace PromiseDetection

namespace Document

variable {document : Document} {module : Nat}

theorem writtenType_of_annotated {clause inner : Nat}
    (kind : document.tree.kind clause = .annotatedType)
    (first : document.tree.firstOperand? clause = some inner) :
    document.writtenType module clause = document.writtenType module inner := by
  rw [writtenType]
  simp only [kind]
  split
  · next found => rw [Option.some.inj (found.symm.trans first)]
  · next missing => simp [first] at missing

theorem exists_promise_of_name {position : Nat}
    (named : (document.tree.kind position = .typeIdentifier ∧ document.textOf position = "Promise") ∨
      (document.tree.kind position = .genericType ∧
        ∃ name, document.tree.childWith? position .name = some name ∧
          document.textOf name = "Promise")) :
    ∃ inner, document.writtenType module position = .promise inner := by
  rw [writtenType]
  rcases named with ⟨kind, text⟩ | ⟨kind, name, found, text⟩
  · simp only [kind, text]
    exact ⟨.unknown, by simp⟩
  · simp only [kind]
    split
    · next missing => simp [found] at missing
    · next other known =>
      obtain rfl := Option.some.inj (known.symm.trans found)
      simp only [text, true_or, if_true]
      split
      · exact ⟨_, rfl⟩
      · split
        · exact ⟨_, rfl⟩
        · exact ⟨_, rfl⟩

theorem exists_promise_of_declaresPromise {function clause : Nat}
    (annotated : document.tree.childWith? function .returnType = some clause)
    (kind : document.tree.kind clause = .annotatedType)
    (declares : document.declaresPromise function = true) :
    ∃ inner, document.writtenType module clause = .promise inner := by
  unfold declaresPromise at declares
  simp only [annotated, Option.bind_some] at declares
  split at declares
  · simp at declares
  · next declared first =>
    rw [writtenType_of_annotated kind first]
    apply exists_promise_of_name
    split at declares
    · next own => exact Or.inl ⟨own, by simpa using declares⟩
    · next own =>
      split at declares
      · next name found => exact Or.inr ⟨own, name, found, by simpa using declares⟩
      · simp at declares
    · simp at declares

end Document

namespace ModuleGraph

def writtenReturn? (graph : ModuleGraph) (function : Site) : Option Ty :=
  ((graph.tree function.module).childWith? function.node .returnType).map fun written =>
    graph.writtenType (function.withNode written)

theorem valueNamed_of_declarationAt {graph : ModuleGraph} {name : String} {place : Site}
    {declaration : Declaration}
    (found : graph.declarationAt? place.module name .value place.node = some declaration) :
    graph.valueNamed name place = .ok declaration := by
  simp only [valueNamed, found]

end ModuleGraph

/-- All that a session remembers of annotated functions is written there. -/
def Session.Heeds (graph : ModuleGraph) (session : Session) : Prop :=
  ∀ function type written, graph.writtenReturn? function = some written →
    session.states.lookup function = some (.known type) → type = written

def heeding (graph : ModuleGraph) : Law Unit where
  holds family := ∀ session outcome, session.Heeds graph → family () session = some outcome →
    outcome.2.Heeds graph
  ofPure value session outcome heeds came := by
    cases came
    exact heeds
  ofBind := by
    intro α β first next begun continued session outcome heeds came
    obtain ⟨reached, start, finished⟩ := Option.bind_eq_some_iff.mp came
    exact continued reached.1 reached.2 outcome (begun session reached heeds start) finished

namespace Session.Heeds

variable {graph : ModuleGraph} {session before after : Session} {function : Site}

theorem opened (heeds : session.Heeds graph) : (session.opened function).Heeds graph := by
  intro sought type written annotated found
  rw [lookup_opened] at found
  by_cases same : sought = function
  · simp [same] at found
  · rw [if_neg same] at found
    exact heeds sought type written annotated found

theorem closed {kept? : Option Ty} (heeds : after.Heeds graph)
    (kept : ∀ type written, graph.writtenReturn? function = some written → kept? = some type →
      type = written) : (after.closed before function kept?).Heeds graph := by
  intro sought type written annotated found
  rw [lookup_closed] at found
  by_cases same : sought = function
  · subst same
    rw [if_pos rfl, Option.map_eq_some_iff] at found
    obtain ⟨own, given, known⟩ := found
    cases known
    exact kept _ written annotated given
  · rw [if_neg same] at found
    exact heeds sought type written annotated found

end Session.Heeds

theorem Session.eq_of_kept? {session : Session} {level : Nat} {result : Except InferenceError Ty}
    {type : Ty} (kept : session.kept? level result = some type) : result = .ok type := by
  unfold Session.kept? at kept
  split at kept
  · split at kept
    · simp at kept
    · rw [Option.some.inj kept]
  · simp at kept

section

variable {graph : ModuleGraph}

theorem heeding_remembered {read : Site → Infer Ty} {function : Site}
    (allowed : (heeding graph).allows fun _ => read function)
    (written : ∀ type, graph.writtenReturn? function = some type → ∀ session outcome,
      (read function).run session = some outcome → ∀ found, outcome.1 = .ok found → found = type) :
    (heeding graph).allows fun _ => Infer.remembered read function := by
  intro session outcome heeds came
  have ran := (Infer.run_remembered read function session).symm.trans came
  cases found : session.states.lookup function with
  | some state =>
    cases state with
    | known type =>
      simp only [found, Option.some.injEq] at ran
      exact ran ▸ heeds
    | reading level =>
      simp only [found, Option.some.injEq] at ran
      exact ran ▸ heeds
  | none =>
    simp only [found] at ran
    obtain ⟨reached, came, closed⟩ := Option.map_eq_some_iff.mp ran
    rw [← closed]
    apply (allowed _ reached heeds.opened came).closed
    intro type given annotated kept
    exact written given annotated _ reached came type (Session.eq_of_kept? kept)

theorem bodyReturnStep_of_written {below : Judgements} {function : Site} {type : Ty}
    (annotated : graph.writtenReturn? function = some type) :
    below.bodyReturnStep graph function = pure type := by
  obtain ⟨written, found, rfl⟩ := Option.map_eq_some_iff.mp annotated
  simp only [Judgements.bodyReturnStep, found]

namespace Judgements

theorem heeding_await (inference : Inference) (levels : Nat) {thenable : Ty → Inquiry Bool}
    (held : ∀ type, (heeding graph).holds fun _ => thenable type) (type : Ty) :
    (heeding graph).holds fun _ => inference.manner.await graph levels thenable type :=
  Law.holds_awaited (Or.inl fun _ _ _ came => (nomatch came)) held

theorem lawful_heeding (inference : Inference) (levels : Nat) :
    Lawful (heeding inference.graph) fun _ =>
      withLevels inference.manner inference.graph levels := by
  induction levels with
  | zero =>
    apply lawful_exhausted_of
    · intro function
      apply heeding_remembered ((heeding _).allows_throw _)
      intro type annotated session outcome came found given
      cases came
      simp at given
    · exact heeding_await inference 0 fun _ => (heeding _).ofPure false
  | succ levels held =>
    apply lawful_step_of held
    · intro function
      apply heeding_remembered (held.bodyReturnStep _ _)
      intro type annotated session outcome came found given
      rw [bodyReturnStep_of_written annotated] at came
      cases came
      exact (Except.ok.inj given).symm
    · exact heeding_await inference (levels + 1) (held.thenableStep _ _)

theorem functionReturn_of_written {inference : Inference} {session : Session} {function : Site}
    {type : Ty} (heeds : session.Heeds inference.graph)
    (unread : session.isReading function = false)
    (annotated : inference.graph.writtenReturn? function = some type) (levels : Nat) :
    ∃ later, ((withLevels inference.manner inference.graph (levels + 1)).functionReturn
      function).run session = some (.ok type, later) := by
  show ∃ later, (Infer.remembered
    ((withLevels inference.manner inference.graph levels).bodyReturnStep inference.graph)
      function).run session = some (.ok type, later)
  rw [Infer.run_remembered]
  cases found : session.states.lookup function with
  | some state =>
    cases state with
    | known known => exact ⟨session, by rw [heeds function known type annotated found]⟩
    | reading level => simp [Session.isReading, found] at unread
  | none =>
    simp only [bodyReturnStep_of_written annotated]
    exact ⟨_, rfl⟩

variable {manner : Manner} {levels : Nat} {session later : Session} {inner : Ty}

theorem answer_of_promise {candidate : Candidate} {given : Infer Ty}
    (came : given.run session = some (.ok (.promise inner), later))
    (yields : (withLevels manner graph (levels + 1)).yields graph candidate = do
      let type ← given
      (withLevels manner graph (levels + 1)).thenable type) :
    ((withLevels manner graph (levels + 1)).answer graph candidate).run session =
      some (true, later) := by
  show (((withLevels manner graph (levels + 1)).yields graph candidate).run session).bind _ = _
  rw [yields]
  show ((given.run session).bind _).bind _ = _
  rw [came]
  rfl

theorem declaration_of_signature {place : Site} {type : Ty}
    (signature : (graph.tree place.module).kind place.node = .functionSignature)
    (annotated : graph.writtenReturn? place = some type) :
    (withLevels manner graph (levels + 1)).declaration (.function place) =
      pure (.returning type) := by
  obtain ⟨written, child, rfl⟩ := Option.map_eq_some_iff.mp annotated
  have own : (graph.document place.module).tree.childWith? place.node .returnType = some written :=
    child
  show (withLevels manner graph levels).declarationStep graph (.function place) = _
  simp only [declarationStep, signature, ↓reduceIte, Document.writtenTypeIn, own]
  rfl

theorem callReturn_of_named {place : Site} {callee : Nat} {function : Site}
    (called : (graph.tree place.module).childWith? place.node .callee = some callee)
    (identifier : (graph.tree place.module).kind callee = .identifier)
    (defined : graph.textOf (place.withNode callee) ≠ "undefined")
    (found : graph.valueNamed (graph.textOf (place.withNode callee)) (place.withNode callee) =
      .ok (.function function)) :
    (withLevels manner graph (levels + 2)).callReturn graph place =
      ((withLevels manner graph (levels + 1)).declaration (.function function) >>=
        (withLevels manner graph (levels + 2)).signature) := by
  have word : (graph.tree place.module).kind callee ≠ .importWord := by simp [identifier]
  have named : (withLevels manner graph (levels + 2)).expression (place.withNode callee) =
      (withLevels manner graph (levels + 1)).declaration (.function function) :=
    expression_of_identifier identifier rfl defined found
  simp only [callReturn, called, word, ↓reduceIte, named]

theorem callReturn_of_written {inference : Inference} {session : Session} {place function : Site}
    {callee : Nat} {type : Ty} (heeds : session.Heeds inference.graph)
    (unread : session.isReading function = false)
    (called : (inference.graph.tree place.module).childWith? place.node .callee = some callee)
    (identifier : (inference.graph.tree place.module).kind callee = .identifier)
    (defined : inference.graph.textOf (place.withNode callee) ≠ "undefined")
    (found : inference.graph.valueNamed (inference.graph.textOf (place.withNode callee))
      (place.withNode callee) = .ok (.function function))
    (annotated : inference.graph.writtenReturn? function = some type) (levels : Nat) :
    ∃ later, ((withLevels inference.manner inference.graph (levels + 2)).callReturn
      inference.graph place).run session = some (.ok type, later) := by
  rw [callReturn_of_named called identifier defined found]
  by_cases signature : (inference.graph.tree function.module).kind function.node = .functionSignature
  · rw [declaration_of_signature signature annotated]
    exact ⟨session, rfl⟩
  · rw [declaration_of_function signature]
    exact functionReturn_of_written heeds unread annotated levels

end Judgements

end

namespace Inference

variable {inference : Inference} {queries : List Judgements.Query} {session : Session}
  {answers : List (Except InferenceError (Ty ⊕ Bool))}

theorem holds_asked {law : Law Unit} (lawful : Judgements.Lawful law fun _ => inference.judgements)
    (queries : List Judgements.Query) : law.holds fun _ => inference.asked queries :=
  Law.holds_mapM fun query _ => Law.holds_attempt (lawful.ask inference.graph query)

theorem idle_of_asked (asked : (inference.asked queries).run .fresh = some (answers, session)) :
    session.Idle := by
  have lawful : Judgements.Lawful balance fun _ => inference.judgements :=
    Judgements.lawful_withLevels (Manner.lawful_of_read balance_endless fun _ allowed function =>
      balance_remembered (allowed function)) inference.levels
  exact (holds_asked lawful queries _ _ asked).idle Session.idle_fresh

theorem heeds_of_asked (asked : (inference.asked queries).run .fresh = some (answers, session)) :
    session.Heeds inference.graph := by
  apply holds_asked (Judgements.lawful_heeding inference inference.levels) queries _ _ _ asked
  intro function type written annotated found
  simp [Session.fresh] at found

theorem candidateVerdict_of_async {node name : Nat}
    (async : (inference.graph.tree 0).isAsync node = true) :
    (inference.candidateVerdict { kind := .function, node, name }).run session =
      some (true, session) := by
  rw [candidateVerdict]
  simp only [async, if_true]
  rfl

theorem candidateVerdict_of_answer {candidate : Candidate} {later : Session}
    (positive : (inference.answer candidate).run session = some (true, later)) :
    ∃ later, (inference.candidateVerdict candidate).run session = some (true, later) := by
  rw [candidateVerdict]
  split
  · split
    · exact ⟨session, rfl⟩
    · exact ⟨later, positive⟩
  · exact ⟨later, positive⟩

theorem answer_of_written {function name : Nat} {inner : Ty}
    (enough : 1 ≤ inference.levels) (heeds : session.Heeds inference.graph)
    (unread : session.isReading { node := function, module := 0 } = false)
    (annotated : inference.graph.writtenReturn? { node := function, module := 0 } =
      some (.promise inner)) :
    ∃ later, (inference.answer { kind := .function, node := function, name }).run session =
      some (true, later) := by
  obtain ⟨levels, count⟩ := Nat.exists_eq_add_of_le' enough
  obtain ⟨later, came⟩ := Judgements.functionReturn_of_written heeds unread annotated levels
  refine ⟨later, ?_⟩
  rw [answer, judgements, count]
  exact Judgements.answer_of_promise came rfl

theorem answer_of_named {call callee name : Nat} {function : Site} {inner : Ty}
    (enough : 2 ≤ inference.levels) (heeds : session.Heeds inference.graph)
    (unread : session.isReading function = false)
    (annotated : inference.graph.writtenReturn? function = some (.promise inner))
    (called : (inference.graph.tree 0).childWith? call .callee = some callee)
    (identifier : (inference.graph.tree 0).kind callee = .identifier)
    (defined : inference.graph.textOf { node := callee, module := 0 } ≠ "undefined")
    (found : inference.graph.valueNamed (inference.graph.textOf { node := callee, module := 0 })
      { node := callee, module := 0 } = .ok (.function function)) :
    ∃ later, (inference.answer { kind := .call, node := call, name }).run session =
      some (true, later) := by
  obtain ⟨levels, count⟩ := Nat.exists_eq_add_of_le' enough
  obtain ⟨later, came⟩ := @Judgements.callReturn_of_written inference session
    { node := call, module := 0 } function callee (.promise inner) heeds unread called identifier
    defined found annotated levels
  refine ⟨later, ?_⟩
  rw [answer, judgements, count]
  exact Judgements.answer_of_promise came rfl

/-- **Declared promises.** Whatever was asked before, an annotated function is positive if it is
`async` or declares a promise, and if it declares one, so is every call that names it. A name that
is `undefined` names nothing. -/
theorem candidateVerdict_of_declared (graph : ModuleGraph)
    (asked : ((onGraph graph).asked queries).run .fresh = some (answers, session))
    {function clause : Nat}
    (annotated : (graph.tree 0).childWith? function .returnType = some clause)
    (kind : (graph.tree 0).kind clause = .annotatedType) :
    ((graph.tree 0).isAsync function = true ∨
        (graph.document 0).declaresPromise function = true → ∀ name, ∃ later,
      ((onGraph graph).candidateVerdict { kind := .function, node := function, name }).run session =
        some (true, later)) ∧
    ((graph.document 0).declaresPromise function = true → ∀ call callee name,
      (graph.tree 0).childWith? call .callee = some callee →
      (graph.tree 0).kind callee = .identifier →
      (graph.document 0).textOf callee ≠ "undefined" →
      graph.valueNamed ((graph.document 0).textOf callee) { node := callee, module := 0 } =
        .ok (.function { node := function, module := 0 }) → ∃ later,
      ((onGraph graph).candidateVerdict { kind := .call, node := call, name }).run session =
        some (true, later)) := by
  have heeds := heeds_of_asked asked
  have unread := (idle_of_asked asked).reading { node := function, module := 0 }
  have promised (declares : (graph.document 0).declaresPromise function = true) :
      ∃ inner, graph.writtenReturn? { node := function, module := 0 } = some (.promise inner) := by
    obtain ⟨inner, written⟩ :=
      (graph.document 0).exists_promise_of_declaresPromise annotated kind declares
    exact ⟨inner, Option.map_eq_some_iff.mpr ⟨clause, annotated, written⟩⟩
  have enough : 2 ≤ standardLevels := by decide
  constructor
  · intro declared name
    by_cases async : (graph.tree 0).isAsync function = true
    · exact ⟨session, candidateVerdict_of_async async⟩
    · obtain ⟨inner, given⟩ := promised (declared.resolve_left async)
      obtain ⟨later, positive⟩ :=
        @answer_of_written (onGraph graph) session function name inner
          (Nat.le_of_succ_le enough) heeds unread given
      exact candidateVerdict_of_answer positive
  · intro declares call callee name called identifier defined found
    obtain ⟨inner, given⟩ := promised declares
    obtain ⟨later, positive⟩ :=
      @answer_of_named (onGraph graph) session call callee name _ inner enough heeds
        unread given called identifier defined found
    exact candidateVerdict_of_answer positive

end Inference

def declaredPromiseNodes : Array Node :=
  #[⟨.program, true, none, 0, 34, none⟩, ⟨.functionDeclaration, true, none, 0, 30, some 0⟩,
    ⟨.functionWord, false, none, 0, 8, some 1⟩, ⟨.identifier, true, some .name, 9, 10, some 1⟩,
    ⟨.other "formal_parameters", true, some .parameters, 10, 12, some 1⟩,
    ⟨.other "(", false, none, 10, 11, some 4⟩, ⟨.other ")", false, none, 11, 12, some 4⟩,
    ⟨.annotatedType, true, some .returnType, 12, 27, some 1⟩,
    ⟨.other ":", false, none, 12, 13, some 7⟩, ⟨.genericType, true, none, 14, 27, some 7⟩,
    ⟨.typeIdentifier, true, some .name, 14, 21, some 9⟩,
    ⟨.typeArguments, true, some .typeArguments, 21, 27, some 9⟩,
    ⟨.other "<", false, none, 21, 22, some 11⟩, ⟨.predefinedType, true, none, 22, 26, some 11⟩,
    ⟨.other "void", false, none, 22, 26, some 13⟩, ⟨.other ">", false, none, 26, 27, some 11⟩,
    ⟨.statementBlock, true, some .body, 28, 30, some 1⟩,
    ⟨.other "\x7b", false, none, 28, 29, some 16⟩, ⟨.other "\x7d", false, none, 29, 30, some 16⟩,
    ⟨.expressionStatement, true, none, 31, 34, some 0⟩,
    ⟨.callExpression, true, none, 31, 34, some 19⟩,
    ⟨.identifier, true, some .callee, 31, 32, some 20⟩,
    ⟨.other "arguments", true, none, 32, 34, some 20⟩, ⟨.other "(", false, none, 32, 33, some 22⟩,
    ⟨.other ")", false, none, 33, 34, some 22⟩]

def declaredPromise : ModuleGraph where
  root :=
    { document :=
        { text := "function f(): Promise<void> \x7b\x7d\nf()"
          tree :=
            { nodes := declaredPromiseNodes
              ends := Tree.endsOf declaredPromiseNodes
              nonempty := by decide +kernel
              ends_size := by decide +kernel
              nested := by decide +kernel } }
      path? := some ⟨"main.ts"⟩
      dialect := .typeScript }
  imports := #[]
  links := []

/-- Both verdicts, once the call has been asked about. -/
theorem Inference.candidateVerdict_of_declared_declaredPromise :
    ∃ answers session,
      ((onGraph declaredPromise).asked [.call { node := 20, module := 0 }]).run .fresh =
        some (answers, session) ∧
      (∃ later, ((onGraph declaredPromise).candidateVerdict
        { kind := .function, node := 1, name := 3 }).run session = some (true, later)) ∧
      ∃ later, ((onGraph declaredPromise).candidateVerdict
        { kind := .call, node := 20, name := 21 }).run session = some (true, later) := by
  obtain ⟨⟨answers, session⟩, asked⟩ := Option.isSome_iff_exists.mp
    (show (((onGraph declaredPromise).asked [.call { node := 20, module := 0 }]).run
      .fresh).isSome by decide +kernel)
  have declares : (declaredPromise.document 0).declaresPromise 1 = true := by decide +kernel
  obtain ⟨functions, calls⟩ := candidateVerdict_of_declared declaredPromise asked
    (show (declaredPromise.tree 0).childWith? 1 .returnType = some 7 by decide +kernel)
    (by decide +kernel)
  refine ⟨answers, session, asked, functions (Or.inr declares) 3, ?_⟩
  exact calls declares 20 21 21 (by decide +kernel) (by decide +kernel) (by decide +kernel)
    (ModuleGraph.valueNamed_of_declarationAt (by decide +kernel))

def undefinedPromiseNodes : Array Node :=
  #[⟨.program, true, none, 0, 62, none⟩, ⟨.functionDeclaration, true, none, 0, 38, some 0⟩,
    ⟨.functionWord, false, none, 0, 8, some 1⟩, ⟨.identifier, true, some .name, 9, 18, some 1⟩,
    ⟨.other "formal_parameters", true, some .parameters, 18, 20, some 1⟩,
    ⟨.other "(", false, none, 18, 19, some 4⟩, ⟨.other ")", false, none, 19, 20, some 4⟩,
    ⟨.annotatedType, true, some .returnType, 20, 35, some 1⟩,
    ⟨.other ":", false, none, 20, 21, some 7⟩, ⟨.genericType, true, none, 22, 35, some 7⟩,
    ⟨.typeIdentifier, true, some .name, 22, 29, some 9⟩,
    ⟨.typeArguments, true, some .typeArguments, 29, 35, some 9⟩,
    ⟨.other "<", false, none, 29, 30, some 11⟩, ⟨.predefinedType, true, none, 30, 34, some 11⟩,
    ⟨.other "void", false, none, 30, 34, some 13⟩, ⟨.other ">", false, none, 34, 35, some 11⟩,
    ⟨.statementBlock, true, some .body, 36, 38, some 1⟩,
    ⟨.other "\x7b", false, none, 36, 37, some 16⟩, ⟨.other "\x7d", false, none, 37, 38, some 16⟩,
    ⟨.classDeclaration, true, none, 39, 62, some 0⟩,
    ⟨.other "decorator", true, none, 39, 51, some 19⟩, ⟨.other "@", false, none, 39, 40, some 20⟩,
    ⟨.callExpression, true, none, 40, 51, some 20⟩,
    ⟨.identifier, true, some .callee, 40, 49, some 22⟩,
    ⟨.other "arguments", true, none, 49, 51, some 22⟩, ⟨.other "(", false, none, 49, 50, some 24⟩,
    ⟨.other ")", false, none, 50, 51, some 24⟩, ⟨.classExpression, false, none, 52, 57, some 19⟩,
    ⟨.typeIdentifier, true, some .name, 58, 59, some 19⟩,
    ⟨.classBody, true, some .body, 60, 62, some 19⟩, ⟨.other "\x7b", false, none, 60, 61, some 29⟩,
    ⟨.other "\x7d", false, none, 61, 62, some 29⟩]

def undefinedPromise : ModuleGraph where
  root :=
    { document :=
        { text := "function undefined(): Promise<void> \x7b\x7d\n@undefined() class A \x7b\x7d"
          tree :=
            { nodes := undefinedPromiseNodes
              ends := Tree.endsOf undefinedPromiseNodes
              nonempty := by decide +kernel
              ends_size := by decide +kernel
              nested := by decide +kernel } }
      path? := some ⟨"main.ts"⟩
      dialect := .typeScript }
  imports := #[]
  links := []

/-- The call names a function that declares a promise, but its callee is taken for the value
`undefined`, which gives nothing. -/
theorem not_candidateVerdict_undefinedPromise :
    (undefinedPromise.tree 0).childWith? 1 .returnType = some 7 ∧
      (undefinedPromise.tree 0).kind 7 = .annotatedType ∧
      (undefinedPromise.document 0).declaresPromise 1 = true ∧
      (undefinedPromise.tree 0).candidate? 22 = some { kind := .call, node := 22, name := 23 } ∧
      (undefinedPromise.tree 0).childWith? 22 .callee = some 23 ∧
      (undefinedPromise.tree 0).kind 23 = .identifier ∧
      undefinedPromise.valueNamed ((undefinedPromise.document 0).textOf 23)
        { node := 23, module := 0 } = .ok (.function { node := 1, module := 0 }) ∧
      ¬ ∃ later, ((Inference.onGraph undefinedPromise).candidateVerdict
        { kind := .call, node := 22, name := 23 }).run .fresh = some (true, later) := by
  have negative : (((Inference.onGraph undefinedPromise).candidateVerdict
      { kind := .call, node := 22, name := 23 }).run .fresh).map Prod.fst = some false := by
    decide +kernel
  refine ⟨by decide +kernel, by decide +kernel, by decide +kernel, by decide +kernel,
    by decide +kernel, by decide +kernel,
    ModuleGraph.valueNamed_of_declarationAt (by decide +kernel), ?_⟩
  rintro ⟨later, positive⟩
  simp [positive] at negative

end PromiseDetection

import Mathlib.Control.Monad.Basic
import PromiseDetection.Proofs.Typing.Awaiting

/-!
Which verdicts come to an end.

Everything that inference does uses up levels, except for awaiting: it looks into the alternatives
of unions and behind the names of aliases at one level. So inference ends exactly if it awaits no
type that unfolds for ever. The runs with more and more patience approach the run that refuses to
await such types, and this one is compared with them rule by rule.
-/

namespace PromiseDetection

open Classical in
/-- Awaiting a type that refuses circular types and has patience enough for all others. -/
noncomputable def awaitedUnlessCircular (graph : ModuleGraph) (levels : Nat)
    (thenable : Ty → Inquiry Bool) (type : Ty) : Inquiry Ty :=
  if ends : ∃ steps, graph.endsWithin levels steps type = true then
    awaited ends.choose graph levels thenable type
  else .endless

/-- With more and more patience the runs of a family settle on its unbounded run, and no run has
another outcome. -/
def approach : Law (Option Nat) where
  holds family :=
    (∀ patience session, family (some patience) session = none ∨
      family (some patience) session = family none session) ∧
    ∀ session outcome, family none session = some outcome →
      ∃ enough, ∀ more, enough ≤ more → family (some more) session = some outcome
  ofPure value := ⟨fun _ _ => Or.inr rfl, fun _ _ same => ⟨0, fun _ _ => same⟩⟩
  ofBind := by
    rintro α β first next ⟨firstNear, firstLimit⟩ continued
    have step (index : Option Nat) (session : Session) :
        (first index >>= next index) session =
          (first index session).bind fun reached => next index reached.1 reached.2 := rfl
    refine ⟨fun patience session => ?_, fun session outcome same => ?_⟩
    · simp only [step]
      rcases firstNear patience session with lost | same
      · exact Or.inl (by simp [lost])
      · rw [same]
        cases first none session with
        | none => exact Or.inl rfl
        | some reached => exact (continued reached.1).1 patience reached.2
    · simp only [step] at same ⊢
      obtain ⟨reached, begun, finished⟩ := Option.bind_eq_some_iff.mp same
      obtain ⟨early, settledFirst⟩ := firstLimit session reached begun
      obtain ⟨late, settledNext⟩ := (continued reached.1).2 reached.2 outcome finished
      refine ⟨max early late, fun more enough => ?_⟩
      rw [settledFirst more (by omega)]
      exact settledNext more (by omega)

variable {graph : ModuleGraph} {levels : Nat}

/-- Bounds that are not reached at first and grow without end do not matter in the limit. -/
theorem approach_unlessZero {α : Type} {patience : Option Nat → Nat}
    {family : Option Nat → Inquiry α} (positive : patience none ≠ 0)
    (growing : ∀ bound, ∃ enough, ∀ more, enough ≤ more → bound ≤ patience (some more))
    (held : approach.holds family) :
    approach.holds fun index => if patience index = 0 then .endless else family index := by
  obtain ⟨near, limit⟩ := held
  simp only [approach, positive, ↓reduceIte]
  refine ⟨fun bound session => ?_, fun session outcome same => ?_⟩
  · by_cases lost : patience (some bound) = 0
    · exact Or.inl (by simp [lost, Inquiry.endless])
    · simpa [lost] using near bound session
  · obtain ⟨early, begun⟩ := growing 1
    obtain ⟨late, settled⟩ := limit session outcome same
    refine ⟨max early late, fun more enough => ?_⟩
    have kept := begun more (by omega)
    rw [if_neg (by omega)]
    exact settled more (by omega)

theorem approach_awaited {patience : Option Nat → Nat} {thenable : Option Nat → Ty → Inquiry Bool}
    (growing : ∀ bound, ∃ enough, ∀ more, enough ≤ more → bound ≤ patience (some more))
    (held : ∀ type, approach.holds fun index => thenable index type) {type : Ty}
    (ends : graph.endsWithin levels (patience none) type = true) :
    approach.holds fun index => awaited (patience index) graph levels (thenable index) type := by
  induction steps : patience none generalizing patience type with
  | zero => simp [steps, ModuleGraph.endsWithin] at ends
  | succ remaining inductionHypothesis =>
    let less (index : Option Nat) : Nat := patience index - 1
    have lessGrowing : ∀ bound, ∃ enough, ∀ more, enough ≤ more → bound ≤ less (some more) := by
      intro bound
      obtain ⟨enough, grown⟩ := growing (bound + 1)
      exact ⟨enough, fun more above => Nat.le_sub_of_add_le (grown more above)⟩
    have lessLast : less none = remaining := by simp [less, steps]
    have below {next : Ty} (step : graph.Unfolds levels type next) :
        approach.holds fun index =>
          awaited (less index) graph levels (thenable index) next := by
      refine inductionHypothesis lessGrowing ?_ lessLast
      rw [steps, ModuleGraph.endsWithin_succ_iff] at ends
      rw [lessLast]
      exact ends next step
    have unrolled : approach.holds fun index =>
        awaited (less index + 1) graph levels (thenable index) type := by
      cases type with
      | union alternatives =>
        exact approach.ofBind (Law.holds_mapM fun next membership => below (.alternative membership))
          fun types => approach.ofPure (Ty.ofAlternatives types)
      | named name place =>
        simp only [awaited]
        split
        · next found => exact below (.name found)
        · exact approach.ofPure Ty.unknown
      | promise inner => exact approach.ofPure inner
      | _ =>
        apply approach.ofBind (held _)
        intro positive
        cases positive <;> exact approach.ofPure _
    refine Law.holds_congr (fun index => ?_) (approach_unlessZero (by omega) growing unrolled)
    cases known : patience index with
    | zero => simp [awaited]
    | succ bound => simp [less, known]

noncomputable def patientManner : Option Nat → Manner
  | some patience => { read := Infer.remembered, await := awaitedBeyond patience }
  | none => { read := Infer.remembered, await := awaitedUnlessCircular }

theorem lawful_patientManner (graph : ModuleGraph) :
    Manner.Lawful approach graph patientManner where
  read := by
    intro reads allowed function
    have single {γ : Type} (inquiry : Inquiry γ) : approach.holds fun _ => inquiry :=
      ⟨fun _ _ => Or.inr rfl, fun _ _ same => ⟨0, fun _ _ => same⟩⟩
    refine Law.holds_congr (fun index => ?_)
      (Law.allows_remembered (fun inquiry _ => single inquiry) (allowed function))
    cases index <;> rfl
  await := by
    intro levels thenable held type
    by_cases ends : ∃ steps, graph.endsWithin levels steps type = true
    · let patience (index : Option Nat) : Nat :=
        (index.map (· + type.unionDepth)).getD ends.choose
      have growing : ∀ bound, ∃ enough, ∀ more, enough ≤ more → bound ≤ patience (some more) :=
        fun bound => ⟨bound, fun _ above => Nat.le_add_right_of_le above⟩
      refine Law.holds_congr (fun index => ?_) (approach_awaited growing held ends.choose_spec)
      cases index with
      | some bound => rfl
      | none =>
        simp only [patientManner, awaitedUnlessCircular, dif_pos ends]
        rfl
    · have refused : (patientManner none).await graph levels (thenable none) type = .endless := by
        simp only [patientManner, awaitedUnlessCircular, dif_neg ends]
      refine ⟨fun bound session => Or.inl ?_, fun session outcome same => ?_⟩
      · rw [Option.eq_none_iff_forall_ne_some]
        exact fun outcome came => ends ⟨_, endsWithin_of_awaited came⟩
      · simp only [refused] at same
        simp [Inquiry.endless] at same

namespace Inference

/-- The answer about a candidate comes to an end: from some patience on it is always the same. -/
def Ends (inference : Inference) (candidate : Candidate) (session : Session) : Prop :=
  ∃ patience outcome, ∀ more, patience ≤ more →
    ({ inference with patience := more }.answer candidate).run session = some outcome

/-- The answer that inference gives if it refuses to await circular types. -/
noncomputable def answerUnlessCircular (inference : Inference) (candidate : Candidate) :
    Inquiry Bool :=
  (Judgements.withLevels (patientManner none) inference.graph inference.levels).answer
    inference.graph candidate

theorem answer_eq (inference : Inference) (candidate : Candidate) :
    inference.answer candidate =
      (Judgements.withLevels (patientManner (some inference.patience)) inference.graph
        inference.levels).answer inference.graph candidate :=
  rfl

theorem approach_answer (inference : Inference) (candidate : Candidate) :
    approach.holds fun index => match index with
      | some patience => { inference with patience }.answer candidate
      | none => inference.answerUnlessCircular candidate := by
  refine Law.holds_congr (fun index => ?_)
    (Judgements.lawful_answer (lawful_patientManner inference.graph) inference.levels candidate)
  cases index <;> rfl

theorem exists_outcome_of_ends {inference : Inference} {candidate : Candidate} {session : Session}
    (ends : inference.Ends candidate session) :
    ∃ outcome, (inference.answerUnlessCircular candidate).run session = some outcome := by
  obtain ⟨patience, outcome, settled⟩ := ends
  have came := settled patience (Nat.le_refl patience)
  rcases (inference.approach_answer candidate).1 patience session with lost | same
  · exact absurd (came.symm.trans lost) (by simp)
  · exact ⟨outcome, same.symm.trans came⟩

theorem ends_of_outcome {inference : Inference} {candidate : Candidate} {session : Session}
    {outcome : Bool × Session}
    (came : (inference.answerUnlessCircular candidate).run session = some outcome) :
    inference.Ends candidate session := by
  obtain ⟨enough, settled⟩ := (inference.approach_answer candidate).2 session outcome came
  exact ⟨enough, outcome, settled⟩

/-- **Termination.** The answer about a candidate comes to an end exactly if inference awaits no
circular type on the way to it. -/
theorem ends_iff (inference : Inference) (candidate : Candidate) (session : Session) :
    inference.Ends candidate session ↔
      ∃ outcome, (inference.answerUnlessCircular candidate).run session = some outcome :=
  ⟨exists_outcome_of_ends, fun ⟨_, came⟩ => ends_of_outcome came⟩

end Inference

def circularNodes : Array Node :=
  #[⟨.program, true, none, 0, 62, none⟩, ⟨.typeAliasDeclaration, true, none, 0, 18, some 0⟩,
    ⟨.other "type", false, none, 0, 4, some 1⟩, ⟨.typeIdentifier, true, some .name, 5, 6, some 1⟩,
    ⟨.other "=", false, none, 7, 8, some 1⟩, ⟨.unionType, true, some .value, 9, 17, some 1⟩,
    ⟨.typeIdentifier, true, none, 9, 10, some 5⟩, ⟨.other "|", false, none, 11, 12, some 5⟩,
    ⟨.literalType, true, none, 13, 17, some 5⟩, ⟨.nullLiteral, true, none, 13, 17, some 8⟩,
    ⟨.other ";", false, none, 17, 18, some 1⟩, ⟨.functionDeclaration, true, none, 19, 54, some 0⟩,
    ⟨.asyncWord, false, none, 19, 24, some 11⟩, ⟨.functionWord, false, none, 25, 33, some 11⟩,
    ⟨.identifier, true, some .name, 34, 35, some 11⟩,
    ⟨.other "formal_parameters", true, some .parameters, 35, 41, some 11⟩,
    ⟨.other "(", false, none, 35, 36, some 15⟩,
    ⟨.other "required_parameter", true, none, 36, 40, some 15⟩,
    ⟨.identifier, true, some .pattern, 36, 37, some 17⟩,
    ⟨.annotatedType, true, some .declaredType, 37, 40, some 17⟩,
    ⟨.other ":", false, none, 37, 38, some 19⟩, ⟨.typeIdentifier, true, none, 39, 40, some 19⟩,
    ⟨.other ")", false, none, 40, 41, some 15⟩,
    ⟨.statementBlock, true, some .body, 42, 54, some 11⟩,
    ⟨.other "\x7b", false, none, 42, 43, some 23⟩, ⟨.returnStatement, true, none, 44, 52, some 23⟩,
    ⟨.other "return", false, none, 44, 50, some 25⟩, ⟨.identifier, true, none, 51, 52, some 25⟩,
    ⟨.other "\x7d", false, none, 53, 54, some 23⟩,
    ⟨.expressionStatement, true, none, 55, 62, some 0⟩,
    ⟨.callExpression, true, none, 55, 62, some 29⟩,
    ⟨.identifier, true, some .callee, 55, 56, some 30⟩,
    ⟨.other "arguments", true, none, 56, 62, some 30⟩, ⟨.other "(", false, none, 56, 57, some 32⟩,
    ⟨.nullLiteral, true, none, 57, 61, some 32⟩, ⟨.other ")", false, none, 61, 62, some 32⟩]

/-- An alias that is one of its own alternatives, an `async` function that returns a parameter of
this type, and a call of the function. -/
def circularAlias : ModuleGraph where
  root :=
    { document :=
        { text := "type A = A | null;\nasync function f(x: A) \x7b return x \x7d\nf(null)"
          tree :=
            { nodes := circularNodes
              ends := Tree.endsOf circularNodes
              nonempty := by decide +kernel
              ends_size := by decide +kernel
              nested := by decide +kernel } }
      path? := some ⟨"main.ts"⟩
      dialect := .typeScript }
  imports := #[]
  links := []

theorem Inquiry.bind_of_endless {α β : Type} {first : Inquiry α} {next : α → Inquiry β}
    {session : Session} (lost : first session = none) : (first >>= next) session = none :=
  Option.bind_eq_none_iff.mpr fun _ came => absurd (lost.symm.trans came) (by simp)

theorem Inquiry.map_of_endless {α β : Type} {inquiry : Inquiry α} {change : α → β}
    {session : Session} (lost : inquiry session = none) : (change <$> inquiry) session = none :=
  Option.bind_eq_none_iff.mpr fun _ came => absurd (lost.symm.trans came) (by simp)

theorem Infer.remembered_of_endless {read : Site → Infer Ty} {function : Site} {session : Session}
    (unseen : session.states.lookup function = none)
    (lost : ∀ session, (read function).run session = none) :
    (Infer.remembered read function).run session = none := by
  rw [Infer.run_remembered, unseen, lost]
  rfl

theorem Judgements.answer_of_endless_call {judgements : Judgements} {node name : Nat}
    {session : Session} (lost : (judgements.callReturn graph { node, module := 0 }).run session = none) :
    (judgements.answer graph { kind := .call, node, name }).run session = none :=
  Inquiry.bind_of_endless (Inquiry.bind_of_endless lost)

section

variable {patience : Nat} {session : Session}

theorem awaited_circularAlias {thenable : Ty → Inquiry Bool} :
    awaited patience circularAlias 30 thenable (.named "A" { node := 21, module := 0 }) session =
      none := by
  let again : Ty := .union [.named "A" { node := 6, module := 0 }, .primitive .literal]
  have first : circularAlias.lookThrough 30 (.named "A" { node := 21, module := 0 }) =
      .ok again := by
    decide +kernel
  have within : circularAlias.lookThrough 30 (.named "A" { node := 6, module := 0 }) =
      .ok again := by
    decide +kernel
  have never (steps : Nat) :
      circularAlias.endsWithin 30 steps (.named "A" { node := 6, module := 0 }) = false ∧
        circularAlias.endsWithin 30 steps again = false := by
    induction steps with
    | zero => exact ⟨rfl, rfl⟩
    | succ steps inductionHypothesis =>
      simp [again, ModuleGraph.endsWithin, within, inductionHypothesis]
  rw [Option.eq_none_iff_forall_ne_some]
  intro outcome came
  have ends := endsWithin_of_awaited came
  cases patience with
  | zero => simp [ModuleGraph.endsWithin] at ends
  | succ patience => simp [ModuleGraph.endsWithin, first, never patience] at ends

theorem bodyReturn_circularAlias :
    ((Judgements.withLevels (patientManner (some patience)) circularAlias 30).bodyReturnStep
      circularAlias { node := 11, module := 0 }).run session = none := by
  have unwritten : (circularAlias.tree 0).childWith? 11 .returnType = none := by decide +kernel
  have plain : (circularAlias.tree 0).isGenerator 11 = false := by decide +kernel
  have async : (circularAlias.tree 0).isAsync 11 = true := by decide +kernel
  have returned : (circularAlias.tree 0).returnedValues 11 = [27] := by decide +kernel
  have kind : (circularAlias.tree 0).kind 27 = .identifier := by decide +kernel
  have text : circularAlias.textOf { node := 27, module := 0 } = "x" := by decide +kernel
  have found : circularAlias.valueNamed "x" { node := 27, module := 0 } =
      .ok (.parameter { node := 17, module := 0 }) := by
    decide +kernel
  have written : (circularAlias.document 0).writtenTypeIn 0 17 .declaredType =
      .named "A" { node := 21, module := 0 } := by
    decide +kernel
  have type : (Judgements.withLevels (patientManner (some patience)) circularAlias 30).expression
      { node := 27, module := 0 } = pure (.named "A" { node := 21, module := 0 }) := by
    rw [Judgements.expression_of_identifier kind text (by decide) found, ← written]
    rfl
  have endless := @awaited_circularAlias patience session
    ((Judgements.withLevels (patientManner (some patience)) circularAlias 29).thenableStep
      circularAlias 29)
  unfold Judgements.bodyReturnStep
  simp only [Site.withNode, unwritten, plain, async, returned]
  simp only [List.mapM_cons, List.mapM_nil, type]
  exact Inquiry.bind_of_endless (Inquiry.map_of_endless endless)

end

/-- Asking about the call never comes to an end. -/
theorem not_ends_circularAlias :
    (circularAlias.tree 0).candidate? 30 = some { kind := .call, node := 30, name := 31 } ∧
      ¬ (Inference.onGraph circularAlias).Ends { kind := .call, node := 30, name := 31 }
        Session.fresh := by
  have called : (circularAlias.tree 0).childWith? 30 .callee = some 31 := by decide +kernel
  have kind : (circularAlias.tree 0).kind 31 = .identifier := by decide +kernel
  have word : (circularAlias.tree 0).kind 31 ≠ .importWord := by simp [kind]
  have text : circularAlias.textOf { node := 31, module := 0 } = "f" := by decide +kernel
  have found : circularAlias.valueNamed "f" { node := 31, module := 0 } =
      .ok (.function { node := 11, module := 0 }) := by
    decide +kernel
  have declared : (circularAlias.tree 0).kind 11 ≠ .functionSignature := by decide +kernel
  refine ⟨by decide +kernel, ?_⟩
  rintro ⟨patience, outcome, settled⟩
  let judgements := Judgements.withLevels (patientManner (some patience)) circularAlias (30 + 2)
  have callee : judgements.expression { node := 31, module := 0 } =
      pure (.inferred { node := 11, module := 0 }) :=
    (Judgements.expression_of_identifier kind text (by decide) found).trans
      (Judgements.declaration_of_function declared)
  have read : judgements.callReturn circularAlias { node := 30, module := 0 } =
      judgements.signature (.inferred { node := 11, module := 0 }) :=
    Judgements.callReturn_of_function called word callee
  have lost : (judgements.callReturn circularAlias { node := 30, module := 0 }).run Session.fresh =
      none := by
    rw [read, Judgements.signature_of_inferred]
    exact Infer.remembered_of_endless rfl fun _ => bodyReturn_circularAlias
  have never : (judgements.answer circularAlias { kind := .call, node := 30, name := 31 }).run
      Session.fresh = none :=
    Judgements.answer_of_endless_call lost
  have came := settled patience (Nat.le_refl patience)
  rw [Inference.answer_eq] at came
  exact absurd (came.symm.trans never) (by simp)

def completion : Law Unit where
  holds family := ∀ session, ∃ outcome, family () session = some outcome
  ofPure value session := ⟨(value, session), rfl⟩
  ofBind := by
    intro α β first next begun continued session
    obtain ⟨reached, came⟩ := begun session
    obtain ⟨outcome, finished⟩ := continued reached.1 reached.2
    exact ⟨outcome, Option.bind_eq_some_iff.mpr ⟨reached, came, finished⟩⟩

/-- Where no type unfolds for ever, the answer about every candidate comes to an end in every
session. -/
theorem Inference.ends_of_acc {inference : Inference}
    (finite : ∀ levels type,
      Acc (fun next type => inference.graph.Unfolds levels type next) type)
    (candidate : Candidate) (session : Session) : inference.Ends candidate session := by
  have lawful : Manner.Lawful completion inference.graph fun _ => patientManner none := by
    constructor
    · intro reads allowed function
      exact Law.allows_remembered (fun _ outcomes => outcomes) (allowed function)
    · intro levels thenable held type
      have ends := ModuleGraph.exists_endsWithin_iff_acc.mpr (finite levels type)
      simp only [patientManner, awaitedUnlessCircular, dif_pos ends]
      exact Law.holds_awaited (Or.inr ends.choose_spec) held
  obtain ⟨outcome, came⟩ :=
    Judgements.lawful_answer lawful inference.levels candidate session
  exact Inference.ends_of_outcome came

end PromiseDetection

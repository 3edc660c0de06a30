import PromiseDetection.Proofs.Typing.Agreement
import PromiseDetection.Proofs.Typing.History

/-!
What a session remembers, it remembers for ever.

A function is only read while nothing is remembered of it, and what is written down or crossed out
when it has been read is the entry of that function alone. So no answer takes back a return type
that was remembered before, and an inference that is given these types has the same runs: whoever
asks for one of them later, on whatever level, gets just that type. A function that is asked for
while nothing is being read always gets a type, and that type is remembered.
-/

namespace PromiseDetection

namespace Session

/-- The session remembers these types, and it may remember others. -/
def Remembers (types : Site → Option Ty) (session : Session) : Prop :=
  ∀ function type, types function = some type →
    session.states.lookup function = some (.known type)

variable {types : Site → Option Ty} {session after : Session} {function : Site} {type : Ty}

theorem known?_eq_some_iff :
    session.known? function = some type ↔
      session.states.lookup function = some (.known type) := by
  unfold known?
  split
  · next known found => simp [found]
  · next other =>
    constructor
    · intro absurdity
      simp at absurdity
    · intro found
      exact absurd found (other type)

theorem remembers_known? (session : Session) : session.Remembers session.known? :=
  fun _ _ known => known?_eq_some_iff.mp known

namespace Remembers

theorem not_given (remembers : session.Remembers types)
    (unseen : session.states.lookup function = none) : types function = none := by
  cases given : types function with
  | none => rfl
  | some type => simp [remembers function type given] at unseen

theorem opened (remembers : session.Remembers types)
    (unseen : session.states.lookup function = none) :
    (session.opened function).Remembers types := by
  intro sought type given
  have other : sought ≠ function := by
    rintro rfl
    simp [remembers.not_given unseen] at given
  rw [lookup_opened, if_neg other]
  exact remembers sought type given

theorem closed {kept? : Option Ty} (remembers : session.Remembers types)
    (unseen : session.states.lookup function = none) (reached : after.Remembers types) :
    (after.closed session function kept?).Remembers types := by
  intro sought type given
  have other : sought ≠ function := by
    rintro rfl
    simp [remembers.not_given unseen] at given
  rw [lookup_closed, if_neg other]
  exact reached sought type given

end Remembers

end Session

/-- A family whose first member is given some types. In a session that remembers them both members
have the same run, and the session remembers them afterwards. -/
def retention (types : Site → Option Ty) : Law Bool where
  holds family := ∀ session : Session, session.Remembers types →
    family true session = family false session ∧
      ∀ outcome, family false session = some outcome → outcome.2.Remembers types
  ofPure value session remembers := by
    refine ⟨rfl, fun outcome came => ?_⟩
    cases came
    exact remembers
  ofBind := by
    intro α β first next begun continued session remembers
    obtain ⟨same, keeps⟩ := begun session remembers
    show (first true session).bind _ = (first false session).bind _ ∧ _
    rw [same]
    cases came : first false session with
    | none =>
      refine ⟨rfl, fun outcome finished => ?_⟩
      obtain ⟨reached, absent, _⟩ := Option.bind_eq_some_iff.mp finished
      simp [came] at absent
    | some reached =>
      obtain ⟨sameAfter, keepsAfter⟩ := continued reached.1 reached.2 (keeps reached came)
      refine ⟨sameAfter, fun outcome finished => ?_⟩
      obtain ⟨again, found, onward⟩ := Option.bind_eq_some_iff.mp finished
      cases came.symm.trans found
      exact keepsAfter outcome onward

theorem retention_given {types : Site → Option Ty} {reads : Bool → Site → Infer Ty}
    (allowed : ∀ function, (retention types).allows fun index => reads index function)
    (function : Site) :
    (retention types).allows fun index =>
      (cond index (Infer.given types) Infer.remembered) (reads index) function := by
  intro session remembers
  show (Infer.given types (reads true) function).run session =
      (Infer.remembered (reads false) function).run session ∧
    ∀ outcome, (Infer.remembered (reads false) function).run session = some outcome →
      outcome.2.Remembers types
  cases given : types function with
  | some type =>
    simp only [Infer.given, given, Infer.run_remembered, remembers function type given]
    refine ⟨rfl, fun outcome came => ?_⟩
    cases came
    exact remembers
  | none =>
    simp only [Infer.given, given, Infer.run_remembered]
    cases found : session.states.lookup function with
    | some state =>
      cases state with
      | known type =>
        refine ⟨rfl, fun outcome came => ?_⟩
        cases came
        exact remembers
      | reading level =>
        refine ⟨rfl, fun outcome came => ?_⟩
        cases came
        exact remembers
    | none =>
      obtain ⟨same, keeps⟩ := allowed function _ (remembers.opened found)
      have ran : (reads true function).run (session.opened function) =
        (reads false function).run (session.opened function) := same
      dsimp only
      rw [ran]
      refine ⟨rfl, fun outcome came => ?_⟩
      obtain ⟨reached, read, closed⟩ := Option.map_eq_some_iff.mp came
      rw [← closed]
      exact remembers.closed found (keeps reached read)

/-- A function that is being read gets a type, if reading it comes to an end at all. -/
theorem Judgements.exists_ok_of_bodyReturnStep {below : Judgements} {graph : ModuleGraph}
    {function : Site} {session : Session} {outcome : Except InferenceError Ty × Session}
    (came : (below.bodyReturnStep graph function).run session = some outcome) :
    ∃ type, outcome.1 = .ok type := by
  by_cases tells : (graph.tree function.module).HeadTells function.node
  · obtain ⟨type, given⟩ := bodyReturnStep_of_headTells tells
    rw [given] at came
    cases came
    exact ⟨type, rfl⟩
  · by_cases async : (graph.tree function.module).isAsync function.node = true
    · obtain ⟨inner, given⟩ := exists_promise_of_async async tells came
      exact ⟨.promise inner, given⟩
    · obtain ⟨unwritten, plain⟩ := not_or.mp tells
      rw [Option.not_isSome_iff_eq_none] at unwritten
      simp only [bodyReturnStep, unwritten, plain, async, ↓reduceIte, Bool.false_eq_true] at came
      obtain ⟨⟨result, reached⟩, returned, finished⟩ := Option.bind_eq_some_iff.mp came
      obtain ⟨types, given⟩ := exists_ok_of_mapM returned
      cases given
      cases finished
      exact ⟨.ofAlternatives types, rfl⟩

/-- A question, with the number of levels that are left for its answer. -/
structure Question where
  levels : Nat
  query : Judgements.Query

def Question.answered (manner : Manner) (graph : ModuleGraph) (question : Question) :
    Inquiry (Except InferenceError (Ty ⊕ Bool)) :=
  ((Judgements.withLevels manner graph question.levels).ask graph question.query).attempt

namespace Inference

variable {inference : Inference} {session after : Session} {function : Site} {levels : Nat}

def response (inference : Inference) (question : Question) :
    Inquiry (Except InferenceError (Ty ⊕ Bool)) :=
  question.answered inference.manner inference.graph

def responseGiven (inference : Inference) (types : Site → Option Ty) (question : Question) :
    Inquiry (Except InferenceError (Ty ⊕ Bool)) :=
  question.answered { inference.manner with read := Infer.given types } inference.graph

theorem response_retains (inference : Inference) (types : Site → Option Ty) (question : Question) :
    (retention types).holds fun index =>
      cond index (inference.responseGiven types question) (inference.response question) := by
  have lawful : Manner.Lawful (retention types) inference.graph fun index =>
      { read := cond index (Infer.given types) Infer.remembered
        await := awaitedBeyond inference.patience } :=
    Manner.lawful_of_read (fun _ _ => ⟨rfl, fun _ came => nomatch came⟩) fun _ => retention_given
  refine Law.holds_congr (fun index => ?_) (Law.holds_attempt
    ((Judgements.lawful_withLevels lawful question.levels).ask inference.graph question.query))
  cases index <;> rfl

theorem balance_response (inference : Inference) (question : Question) :
    balance.holds fun _ => inference.response question :=
  Law.holds_attempt ((Judgements.lawful_withLevels (Manner.lawful_of_read balance_endless
    fun _ allowed function => balance_remembered (allowed function)) question.levels).ask
      inference.graph question.query)

theorem response_of_known {type : Ty}
    (known : session.states.lookup function = some (.known type)) (levels : Nat) :
    (inference.response ⟨levels, .function function⟩).run session =
      some (.ok (.inl type), session) := by
  have read (reading : Site → Infer Ty) :
      (Infer.remembered reading function).run session = some (.ok type, session) := by
    rw [Infer.run_remembered, known]
  have found : ((Judgements.withLevels inference.manner inference.graph levels).functionReturn
      function).run session = some (.ok type, session) := by
    cases levels with
    | zero => exact read fun _ => throw .tooDeep
    | succ levels =>
      exact read ((Judgements.withLevels inference.manner inference.graph levels).bodyReturnStep
        inference.graph)
  show (((Judgements.withLevels inference.manner inference.graph levels).functionReturn
    function).run session).bind _ = _
  rw [found]
  rfl

/-- A session that reads nothing comes to a type, and remembers it. -/
theorem exists_known_of_response (idle : session.Idle) {result : Except InferenceError (Ty ⊕ Bool)}
    (came : (inference.response ⟨levels + 1, .function function⟩).run session =
      some (result, after)) :
    ∃ type, result = .ok (.inl type) ∧ after.states.lookup function = some (.known type) := by
  have unread := idle.reading function
  cases found : session.states.lookup function with
  | some state =>
    cases state with
    | known type =>
      rw [response_of_known found] at came
      cases came
      exact ⟨type, rfl, found⟩
    | reading level => simp [Session.isReading, found] at unread
  | none =>
    obtain ⟨⟨read, reached⟩, began, finished⟩ := Option.bind_eq_some_iff.mp came
    have ran := (Infer.run_remembered _ function session).symm.trans began
    simp only [found] at ran
    obtain ⟨⟨inner, later⟩, body, closed⟩ := Option.map_eq_some_iff.mp ran
    obtain ⟨type, given⟩ := Judgements.exists_ok_of_bodyReturnStep body
    cases given
    cases closed
    cases finished
    have untainted : later.isTainted session.nesting = false := by
      cases floor : later.lowestCycle <;> simp [Session.isTainted, floor, idle.nesting]
    refine ⟨type, rfl, ?_⟩
    simp [Session.lookup_closed, Session.kept?, untainted]

def responses (inference : Inference) (questions : List Question) :
    Inquiry (List (Except InferenceError (Ty ⊕ Bool))) :=
  questions.mapM inference.response

def responsesGiven (inference : Inference) (types : Site → Option Ty) (questions : List Question) :
    Inquiry (List (Except InferenceError (Ty ⊕ Bool))) :=
  questions.mapM (inference.responseGiven types)

theorem responses_retain (inference : Inference) (types : Site → Option Ty)
    (questions : List Question) :
    (retention types).holds fun index =>
      cond index (inference.responsesGiven types questions) (inference.responses questions) := by
  refine Law.holds_congr (fun index => ?_)
    (Law.holds_mapM fun question (_ : question ∈ questions) =>
      inference.response_retains types question)
  cases index <;> rfl

theorem idle_of_responses {history : List Question}
    {answers : List (Except InferenceError (Ty ⊕ Bool))}
    (reached : (inference.responses history).run .fresh = some (answers, session)) :
    session.Idle :=
  (Law.holds_mapM (fun question (_ : question ∈ history) => inference.balance_response question)
    _ _ reached).idle Session.idle_fresh

/-- **Memory.** If a function is asked for after some questions, when nothing is being read, and
with at least one level, then it gets a type, and this type is remembered. Whatever is asked next,
on any level: an inference that is given all the types that are remembered by then has the same run,
so that everybody who asks for one of these functions gets its type, on every level, and so does
whoever asks for the function afterwards. No answer takes back or changes what is remembered, in
whatever session it is given. -/
theorem response_stable {history : List Question}
    {answers : List (Except InferenceError (Ty ⊕ Bool))}
    (reached : (inference.responses history).run .fresh = some (answers, session))
    {result : Except InferenceError (Ty ⊕ Bool)}
    (came : (inference.response ⟨levels + 1, .function function⟩).run session =
      some (result, after)) :
    (∃ type, result = .ok (.inl type) ∧ after.known? function = some type ∧
      ∀ later further last,
        (inference.responses later).run after = some (further, last) →
          ∀ level, (inference.response ⟨level, .function function⟩).run last =
            some (.ok (.inl type), last)) ∧
      (∀ later, (inference.responses later).run after =
        (inference.responsesGiven after.known? later).run after) ∧
      ∀ question before answer next, (inference.response question).run before = some (answer, next) →
        ∀ known type, before.known? known = some type → next.known? known = some type := by
  obtain ⟨type, given, known⟩ := exists_known_of_response (idle_of_responses reached) came
  refine ⟨⟨type, given, Session.known?_eq_some_iff.mpr known, ?_⟩, ?_, ?_⟩
  · intro later further last asked level
    have kept := (inference.responses_retain after.known? later _ after.remembers_known?).2 _ asked
    exact response_of_known (kept function type (Session.known?_eq_some_iff.mpr known)) level
  · intro later
    exact (inference.responses_retain after.known? later _ after.remembers_known?).1.symm
  · intro question before answer next asked known type remembered
    have kept := (inference.response_retains before.known? question _ before.remembers_known?).2
      _ asked
    exact Session.known?_eq_some_iff.mpr (kept known type remembered)

/-- The first function of a cycle is asked for after the second one, and the second one again
later. -/
theorem response_stable_mutualMember :
    ∃ answers session result after,
      ((onGraph mutualMember).responses
        [⟨standardLevels, .function { node := 20, module := 0 }⟩]).run .fresh =
          some (answers, session) ∧
      ((onGraph mutualMember).response ⟨31 + 1, .function { node := 1, module := 0 }⟩).run session =
        some (result, after) ∧
      (∃ type, result = .ok (.inl type) ∧ after.known? { node := 1, module := 0 } = some type) ∧
      ((onGraph mutualMember).responses
          [⟨standardLevels, .function { node := 20, module := 0 }⟩]).run after =
        ((onGraph mutualMember).responsesGiven after.known?
          [⟨standardLevels, .function { node := 20, module := 0 }⟩]).run after := by
  have ends : ((((onGraph mutualMember).responses
      [⟨standardLevels, .function { node := 20, module := 0 }⟩]).run .fresh).bind fun reached =>
        ((onGraph mutualMember).response ⟨31 + 1, .function { node := 1, module := 0 }⟩).run
          reached.2).isSome := by
    decide +kernel
  obtain ⟨⟨result, after⟩, both⟩ := Option.isSome_iff_exists.mp ends
  obtain ⟨⟨answers, session⟩, reached, came⟩ := Option.bind_eq_some_iff.mp both
  obtain ⟨⟨type, given, known, _⟩, later, _⟩ := response_stable reached came
  exact ⟨answers, session, result, after, reached, came, ⟨type, given, known⟩, later _⟩

end Inference

end PromiseDetection

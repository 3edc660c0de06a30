import Mathlib.Control.Monad.Basic
import PromiseDetection.Proofs.Typing.Awaiting
import PromiseDetection.Proofs.Typing.Balance

/-!
What earlier questions do to a verdict.

A session that has answered some questions reads no function any more, and differs from a fresh one
only in the types that it remembers. Its answers are those of a fresh session in which the
remembered types are given. So a verdict does not depend on the history exactly if it is the same
with these types given and without them.
-/

namespace PromiseDetection

/-- Reads a function, unless its type is given. -/
def Infer.given (types : Site → Option Ty) (read : Site → Infer Ty) (function : Site) : Infer Ty :=
  match types function with
  | some type => pure type
  | none => Infer.remembered read function

namespace Session

def known? (session : Session) (function : Site) : Option Ty :=
  match session.states.lookup function with
  | some (.known type) => some type
  | _ => none

/-- A session that differs from another one in that it remembers the given types. -/
structure Recalls (types : Site → Option Ty) (session plain : Session) : Prop where
  nesting : session.nesting = plain.nesting
  lowestCycle : session.lowestCycle = plain.lowestCycle
  lookup : ∀ function, session.states.lookup function =
    match types function with
    | some type => some (.known type)
    | none => plain.states.lookup function

namespace Recalls

variable {types : Site → Option Ty} {session plain : Session} {function : Site}

theorem lookup_of_given {type : Ty} (recalls : Recalls types session plain)
    (given : types function = some type) :
    session.states.lookup function = some (.known type) := by
  rw [recalls.lookup, given]

theorem lookup_of_not_given (recalls : Recalls types session plain)
    (free : types function = none) :
    session.states.lookup function = plain.states.lookup function := by
  rw [recalls.lookup, free]

theorem touched (recalls : Recalls types session plain) (level : Nat) :
    Recalls types (session.touched level) (plain.touched level) :=
  ⟨recalls.nesting, by simp only [Session.touched, recalls.lowestCycle], recalls.lookup⟩

theorem opened (recalls : Recalls types session plain) (free : types function = none) :
    Recalls types (session.opened function) (plain.opened function) := by
  refine ⟨congrArg (· + 1) recalls.nesting, rfl, fun sought => ?_⟩
  simp only [lookup_opened]
  by_cases same : sought = function
  · simp [same, free, recalls.nesting]
  · simp only [if_neg same, recalls.lookup]

theorem isTainted (recalls : Recalls types session plain) (level : Nat) :
    session.isTainted level = plain.isTainted level := by
  rw [Session.isTainted, Session.isTainted, recalls.lowestCycle]

theorem kept? (recalls : Recalls types session plain) (level : Nat)
    (result : Except InferenceError Ty) :
    session.kept? level result = plain.kept? level result := by
  simp only [Session.kept?, recalls.isTainted]

theorem closed {later after : Session} {kept? : Option Ty} (recalls : Recalls types session plain)
    (reached : Recalls types later after) (free : types function = none) :
    Recalls types (later.closed session function kept?) (after.closed plain function kept?) := by
  refine ⟨recalls.nesting, ?_, fun sought => ?_⟩
  · simp only [Session.closed, reached.isTainted, recalls.nesting, recalls.lowestCycle,
      reached.lowestCycle]
  · simp only [lookup_closed]
    by_cases same : sought = function
    · simp [same, free]
    · simp only [if_neg same, reached.lookup]

end Recalls

/-- A session that reads nothing differs from a fresh one in what it remembers. -/
theorem Idle.recalls {session : Session} (idle : session.Idle) :
    Recalls session.known? session fresh := by
  refine ⟨idle.nesting, idle.lowestCycle, fun function => ?_⟩
  have absent := idle.reading function
  cases found : session.states.lookup function with
  | none => simp [known?, found, fresh]
  | some state =>
    cases state with
    | known type => simp [known?, found]
    | reading level => simp [isReading, found] at absent

end Session

/-- A family whose first member runs in a session that remembers the given types, and whose second
member is given them: the results are the same, and the sessions differ as before. -/
def substitution (types : Site → Option Ty) : Law Bool where
  holds family := ∀ session plain, Session.Recalls types session plain →
    Option.Rel (fun one other => one.1 = other.1 ∧ Session.Recalls types one.2 other.2)
      (family false session) (family true plain)
  ofPure value session plain recalls := .some ⟨rfl, recalls⟩
  ofBind := by
    intro α β first next begun continued session plain recalls
    have related := begun session plain recalls
    show Option.Rel _ ((first false session).bind _) ((first true plain).bind _)
    generalize first false session = one at related ⊢
    generalize first true plain = other at related ⊢
    cases related with
    | none => exact .none
    | @some reached given same =>
      obtain ⟨value, later⟩ := reached
      obtain ⟨_, after⟩ := given
      obtain ⟨rfl, recalls⟩ := same
      exact continued value later after recalls

theorem substitution_given {types : Site → Option Ty} {reads : Bool → Site → Infer Ty}
    (allowed : ∀ function, (substitution types).allows fun index => reads index function)
    (function : Site) :
    (substitution types).allows fun index =>
      (cond index (Infer.given types) Infer.remembered) (reads index) function := by
  intro session plain recalls
  show Option.Rel _ ((Infer.remembered (reads false) function).run session)
    ((Infer.given types (reads true) function).run plain)
  cases given : types function with
  | some type =>
    simp only [Infer.given, given, Infer.run_remembered, recalls.lookup_of_given given]
    exact .some ⟨rfl, recalls⟩
  | none =>
    simp only [Infer.given, given, Infer.run_remembered, recalls.lookup_of_not_given given]
    cases plain.states.lookup function with
    | some state =>
      cases state with
      | known type => exact .some ⟨rfl, recalls⟩
      | reading level => exact .some ⟨rfl, recalls.touched level⟩
    | none =>
      have related := allowed function _ _ (recalls.opened given)
      dsimp only at related ⊢
      generalize (reads false function).run (session.opened function) = one at related ⊢
      generalize (reads true function).run (plain.opened function) = other at related ⊢
      cases related with
      | none => exact .none
      | some same =>
        refine .some ⟨same.1, ?_⟩
        dsimp only
        rw [same.1, same.2.kept?, recalls.nesting]
        exact recalls.closed same.2 given

namespace Inference

def answerGiven (inference : Inference) (types : Site → Option Ty) (candidate : Candidate) :
    Inquiry Bool :=
  (Judgements.withLevels { read := Infer.given types, await := awaitedBeyond inference.patience }
    inference.graph inference.levels).answer inference.graph candidate

variable {inference : Inference} {session : Session} {candidate : Candidate}

theorem balance_answer (inference : Inference) (candidate : Candidate) :
    balance.holds fun _ => inference.answer candidate :=
  Judgements.lawful_answer (Manner.lawful_of_read balance_endless fun _ allowed function =>
    balance_remembered (allowed function)) inference.levels candidate

theorem substitution_answer (inference : Inference) (types : Site → Option Ty)
    (candidate : Candidate) :
    (substitution types).holds fun index =>
      cond index (inference.answerGiven types candidate) (inference.answer candidate) := by
  have lawful : Manner.Lawful (substitution types) inference.graph fun index =>
      { read := cond index (Infer.given types) Infer.remembered
        await := awaitedBeyond inference.patience } :=
    Manner.lawful_of_read (fun _ _ _ => .none) fun _ => substitution_given
  refine Law.holds_congr (fun index => ?_)
    (Judgements.lawful_answer lawful inference.levels candidate)
  cases index <;> rfl

def sessionAfter? (inference : Inference) (history : List Candidate) : Option Session :=
  ((history.mapM inference.answer).run Session.fresh).map (·.2)

/-- The verdict on a candidate in a session, if it comes to an end. -/
def verdictIn? (inference : Inference) (session : Session) (candidate : Candidate) : Option Bool :=
  ((inference.answer candidate).run session).map (·.1)

def verdictGiven? (inference : Inference) (types : Site → Option Ty) (candidate : Candidate) :
    Option Bool :=
  ((inference.answerGiven types candidate).run Session.fresh).map (·.1)

/-- The verdict on a candidate is the same after a history as in a fresh session. -/
def IndependentOf (inference : Inference) (candidate : Candidate) (history : List Candidate) :
    Prop :=
  ∀ session, inference.sessionAfter? history = some session →
    inference.verdictIn? session candidate = inference.verdictIn? .fresh candidate

theorem idle_of_sessionAfter {history : List Candidate}
    (reached : inference.sessionAfter? history = some session) : session.Idle := by
  obtain ⟨outcome, came, rfl⟩ := Option.map_eq_some_iff.mp reached
  exact (Law.holds_mapM (fun candidate _ => inference.balance_answer candidate) _ _ came).idle
    Session.idle_fresh

theorem verdictIn_eq_of_recalls {types : Site → Option Ty} {plain : Session}
    (recalls : Session.Recalls types session plain) :
    inference.verdictIn? session candidate =
      ((inference.answerGiven types candidate).run plain).map (·.1) := by
  have related := inference.substitution_answer types candidate session plain recalls
  show ((inference.answer candidate) session).map _ =
    ((inference.answerGiven types candidate) plain).map _
  dsimp only [cond] at related
  generalize (inference.answer candidate) session = one at related ⊢
  generalize (inference.answerGiven types candidate) plain = other at related ⊢
  cases related with
  | none => rfl
  | some same => exact congrArg some same.1

/-- A session that reads nothing gives the verdict that follows from the types it remembers. -/
theorem verdictIn_of_idle (idle : session.Idle) :
    inference.verdictIn? session candidate = inference.verdictGiven? session.known? candidate :=
  verdictIn_eq_of_recalls idle.recalls

/-- **Histories.** A verdict does not depend on what was asked before exactly if it is the same
whether or not the types that are remembered from there are given. -/
theorem independentOf_iff (inference : Inference) (candidate : Candidate)
    (history : List Candidate) :
    inference.IndependentOf candidate history ↔
      ∀ session, inference.sessionAfter? history = some session →
        inference.verdictGiven? session.known? candidate =
          inference.verdictGiven? (fun _ => none) candidate := by
  refine forall_congr' fun session => imp_congr_right fun reached => ?_
  rw [verdictIn_of_idle (idle_of_sessionAfter reached), verdictIn_of_idle Session.idle_fresh]
  rfl

end Inference

/-- Reads a function in a session, and does not end if that does not give the expected result. -/
def Infer.expecting (results : Site → Except InferenceError Ty) (read : Site → Infer Ty)
    (function : Site) : Infer Ty := ExceptT.mk do
  let before ← get
  let result ← (Infer.remembered read function).attempt
  if before.isReading function ∨ result = results function then return result else .endless

theorem Infer.run_expecting_eq_some {results : Site → Except InferenceError Ty}
    {read : Site → Infer Ty} {function : Site} {session : Session}
    {outcome : Except InferenceError Ty × Session} :
    (Infer.expecting results read function).run session = some outcome ↔
      (Infer.remembered read function).run session = some outcome ∧
        (session.isReading function = true ∨ outcome.1 = results function) := by
  have ran : (Infer.expecting results read function).run session =
      ((Infer.remembered read function).run session).bind fun reached =>
        if session.isReading function ∨ reached.1 = results function then some reached
        else none := by
    show ((Infer.remembered read function).run session).bind _ = _
    refine congrArg _ (funext fun reached => ?_)
    dsimp only
    split <;> rfl
  rw [ran, Option.bind_eq_some_iff]
  constructor
  · rintro ⟨reached, came, kept⟩
    split at kept
    · next expected => cases kept; exact ⟨came, expected⟩
    · simp at kept
  · rintro ⟨came, expected⟩
    exact ⟨outcome, came, if_pos expected⟩

def Session.SameReading (session other : Session) : Prop :=
  ∀ function, session.isReading function = other.isReading function

/-- A family whose first member remembers and whose second member also expects results: where the
second one ends, the first one ends like it, and its value depends only on the functions that are
being read. -/
def agreement : Law Bool where
  holds family :=
    (balance.holds fun _ => family true) ∧
    (∀ session outcome, family true session = some outcome →
      family false session = some outcome) ∧
    ∀ session other, session.SameReading other → ∀ one two, family true session = some one →
      family true other = some two → one.1 = two.1 ∧ one.2.SameReading two.2
  ofPure value := by
    refine ⟨balance.ofPure value, fun _ _ came => came, ?_⟩
    intro session other same one two came reached
    cases came
    cases reached
    exact ⟨rfl, same⟩
  ofBind := by
    intro α β first next begun continued
    obtain ⟨balanced, refines, agrees⟩ := begun
    refine ⟨balance.ofBind balanced fun value => (continued value).1, ?_, ?_⟩
    · intro session outcome came
      obtain ⟨reached, begun, finished⟩ := Option.bind_eq_some_iff.mp came
      exact Option.bind_eq_some_iff.mpr ⟨reached, refines _ _ begun,
        (continued reached.1).2.1 _ _ finished⟩
    · intro session other same one two came reached
      obtain ⟨⟨value, middle⟩, begun, finished⟩ := Option.bind_eq_some_iff.mp came
      obtain ⟨⟨_, otherMiddle⟩, otherBegun, otherFinished⟩ := Option.bind_eq_some_iff.mp reached
      obtain ⟨rfl, sameMiddle⟩ := agrees _ _ same _ _ begun otherBegun
      exact (continued value).2.2 _ _ sameMiddle _ _ finished otherFinished

theorem Infer.eq_cycle_of_isReading {read : Site → Infer Ty} {function : Site} {session : Session}
    {outcome : Except InferenceError Ty × Session} (open_ : session.isReading function = true)
    (came : (Infer.remembered read function).run session = some outcome) :
    outcome.1 = .error .cycle := by
  rw [Infer.run_remembered] at came
  unfold Session.isReading at open_
  split at open_
  · next found =>
    simp only [found, Option.some.injEq] at came
    rw [← came]
  · simp at open_

theorem Infer.run_remembered_mono {one other : Site → Infer Ty} {function : Site}
    (refines : ∀ session outcome, (one function).run session = some outcome →
      (other function).run session = some outcome)
    {session : Session} {outcome : Except InferenceError Ty × Session}
    (came : (Infer.remembered one function).run session = some outcome) :
    (Infer.remembered other function).run session = some outcome := by
  rw [Infer.run_remembered] at came ⊢
  cases found : session.states.lookup function with
  | some state =>
    rw [found] at came
    cases state <;> exact came
  | none =>
    simp only [found] at came ⊢
    obtain ⟨reached, read, closed⟩ := Option.map_eq_some_iff.mp came
    exact Option.map_eq_some_iff.mpr ⟨reached, refines _ _ read, closed⟩

theorem agreement_expecting {results : Site → Except InferenceError Ty}
    {reads : Bool → Site → Infer Ty}
    (allowed : ∀ function, agreement.allows fun index => reads index function)
    (function : Site) :
    agreement.allows fun index =>
      (cond index (Infer.expecting results) Infer.remembered) (reads index) function := by
  have balanced : balance.allows fun _ => Infer.remembered (reads true) function :=
    balance_remembered (allowed function).1
  refine ⟨fun session outcome came =>
    balanced session outcome (Infer.run_expecting_eq_some.mp came).1, ?_, ?_⟩
  · intro session outcome came
    exact Infer.run_remembered_mono (allowed function).2.1 (Infer.run_expecting_eq_some.mp came).1
  · intro session other same one two came reached
    obtain ⟨found, expected⟩ := Infer.run_expecting_eq_some.mp came
    obtain ⟨otherFound, otherExpected⟩ := Infer.run_expecting_eq_some.mp reached
    refine ⟨?_, fun sought => ?_⟩
    · cases reading : session.isReading function with
      | true =>
        rw [Infer.eq_cycle_of_isReading reading found,
          Infer.eq_cycle_of_isReading ((same function).symm.trans reading) otherFound]
      | false =>
        have otherReading := (same function).symm.trans reading
        simp only [reading, otherReading, Bool.false_eq_true, false_or] at expected otherExpected
        rw [expected, otherExpected]
    · rw [(balanced _ _ found).reading, (balanced _ _ otherFound).reading, same]

namespace Inference

variable {inference : Inference} {results : Site → Except InferenceError Ty} {session other : Session}
  {candidate : Candidate} {history : List Candidate}

def answerExpecting (inference : Inference) (results : Site → Except InferenceError Ty)
    (candidate : Candidate) : Inquiry Bool :=
  (Judgements.withLevels { read := Infer.expecting results, await := awaitedBeyond inference.patience }
    inference.graph inference.levels).answer inference.graph candidate

/-- On the way to the answer about a candidate every function that is read gives the expected
result. -/
def Finds (inference : Inference) (results : Site → Except InferenceError Ty) (session : Session)
    (candidate : Candidate) : Prop :=
  ((inference.answerExpecting results candidate).run session).isSome = true

theorem agreement_answer (inference : Inference) (results : Site → Except InferenceError Ty)
    (candidate : Candidate) :
    agreement.holds fun index =>
      cond index (inference.answerExpecting results candidate) (inference.answer candidate) := by
  have endless : agreement.holds fun _ => (.endless : Inquiry Ty) := by
    refine ⟨balance_endless, fun session outcome came => came, ?_⟩
    intro session other same one two came
    simp [Inquiry.endless] at came
  have lawful : Manner.Lawful agreement inference.graph fun index =>
      { read := cond index (Infer.expecting results) Infer.remembered
        await := awaitedBeyond inference.patience } :=
    Manner.lawful_of_read endless fun _ => agreement_expecting
  refine Law.holds_congr (fun index => ?_)
    (Judgements.lawful_answer lawful inference.levels candidate)
  cases index <;> rfl

/-- Where two sessions find the same results of functions, they give the same verdict. -/
theorem verdictIn_eq_of_finds (same : session.SameReading other)
    (finds : inference.Finds results session candidate)
    (otherFinds : inference.Finds results other candidate) :
    inference.verdictIn? session candidate = inference.verdictIn? other candidate := by
  obtain ⟨-, refines, agrees⟩ := inference.agreement_answer results candidate
  obtain ⟨one, came⟩ := Option.isSome_iff_exists.mp finds
  obtain ⟨two, reached⟩ := Option.isSome_iff_exists.mp otherFinds
  have verdict : inference.verdictIn? session candidate = some one.1 :=
    Option.map_eq_some_iff.mpr ⟨one, refines session one came, rfl⟩
  have otherVerdict : inference.verdictIn? other candidate = some two.1 :=
    Option.map_eq_some_iff.mpr ⟨two, refines other two reached, rfl⟩
  rw [verdict, otherVerdict, (agrees session other same one two came reached).1]

/-- A verdict does not depend on what was asked before if every function that is read on the way to
it has one result, which does not change with the place from where it is read. -/
theorem independentOf_of_finds (fresh : inference.Finds results .fresh candidate)
    (later : ∀ session, inference.sessionAfter? history = some session →
      inference.Finds results session candidate) :
    inference.IndependentOf candidate history := by
  intro session reached
  have idle := idle_of_sessionAfter reached
  exact verdictIn_eq_of_finds
    (fun function => (idle.reading function).trans (Session.idle_fresh.reading function).symm)
    (later session reached) fresh

end Inference

def mutualNodes : Array Node :=
  #[⟨.program, true, none, 0, 94, none⟩, ⟨.functionDeclaration, true, none, 0, 29, some 0⟩,
    ⟨.functionWord, false, none, 0, 8, some 1⟩, ⟨.identifier, true, some .name, 9, 10, some 1⟩,
    ⟨.other "formal_parameters", true, some .parameters, 10, 13, some 1⟩,
    ⟨.other "(", false, none, 10, 11, some 4⟩,
    ⟨.other "required_parameter", true, none, 11, 12, some 4⟩,
    ⟨.identifier, true, some .pattern, 11, 12, some 6⟩, ⟨.other ")", false, none, 12, 13, some 4⟩,
    ⟨.statementBlock, true, some .body, 14, 29, some 1⟩,
    ⟨.other "\x7b", false, none, 14, 15, some 9⟩, ⟨.returnStatement, true, none, 16, 27, some 9⟩,
    ⟨.other "return", false, none, 16, 22, some 11⟩,
    ⟨.callExpression, true, none, 23, 27, some 11⟩,
    ⟨.identifier, true, some .callee, 23, 24, some 13⟩,
    ⟨.other "arguments", true, none, 24, 27, some 13⟩, ⟨.other "(", false, none, 24, 25, some 15⟩,
    ⟨.identifier, true, none, 25, 26, some 15⟩, ⟨.other ")", false, none, 26, 27, some 15⟩,
    ⟨.other "\x7d", false, none, 28, 29, some 9⟩, ⟨.functionDeclaration, true, none, 30, 94, some 0⟩,
    ⟨.functionWord, false, none, 30, 38, some 20⟩,
    ⟨.identifier, true, some .name, 39, 40, some 20⟩,
    ⟨.other "formal_parameters", true, some .parameters, 40, 43, some 20⟩,
    ⟨.other "(", false, none, 40, 41, some 23⟩,
    ⟨.other "required_parameter", true, none, 41, 42, some 23⟩,
    ⟨.identifier, true, some .pattern, 41, 42, some 25⟩,
    ⟨.other ")", false, none, 42, 43, some 23⟩,
    ⟨.statementBlock, true, some .body, 44, 94, some 20⟩,
    ⟨.other "\x7b", false, none, 44, 45, some 28⟩,
    ⟨.other "if_statement", true, none, 46, 67, some 28⟩,
    ⟨.other "if", false, none, 46, 48, some 30⟩, ⟨.parenthesized, true, none, 49, 52, some 30⟩,
    ⟨.other "(", false, none, 49, 50, some 32⟩, ⟨.identifier, true, none, 50, 51, some 32⟩,
    ⟨.other ")", false, none, 51, 52, some 32⟩,
    ⟨.returnStatement, true, some .consequence, 53, 67, some 30⟩,
    ⟨.other "return", false, none, 53, 59, some 36⟩,
    ⟨.memberExpression, true, none, 60, 66, some 36⟩,
    ⟨.callExpression, true, some .object, 60, 64, some 38⟩,
    ⟨.identifier, true, some .callee, 60, 61, some 39⟩,
    ⟨.other "arguments", true, none, 61, 64, some 39⟩, ⟨.other "(", false, none, 61, 62, some 41⟩,
    ⟨.identifier, true, none, 62, 63, some 41⟩, ⟨.other ")", false, none, 63, 64, some 41⟩,
    ⟨.other ".", false, none, 64, 65, some 38⟩,
    ⟨.propertyIdentifier, true, some .property, 65, 66, some 38⟩,
    ⟨.other ";", false, none, 66, 67, some 36⟩, ⟨.returnStatement, true, none, 68, 92, some 28⟩,
    ⟨.other "return", false, none, 68, 74, some 48⟩,
    ⟨.objectLiteral, true, none, 75, 92, some 48⟩, ⟨.other "\x7b", false, none, 75, 76, some 50⟩,
    ⟨.pair, true, none, 77, 90, some 50⟩, ⟨.propertyIdentifier, true, some .key, 77, 78, some 52⟩,
    ⟨.other ":", false, none, 78, 79, some 52⟩,
    ⟨.callExpression, true, some .value, 80, 90, some 52⟩,
    ⟨.identifier, true, some .callee, 80, 85, some 55⟩,
    ⟨.other "arguments", true, none, 85, 90, some 55⟩, ⟨.other "(", false, none, 85, 86, some 57⟩,
    ⟨.stringLiteral, true, none, 86, 89, some 57⟩, ⟨.other "'", false, none, 86, 87, some 59⟩,
    ⟨.stringFragment, true, none, 87, 88, some 59⟩, ⟨.other "'", false, none, 88, 89, some 59⟩,
    ⟨.other ")", false, none, 89, 90, some 57⟩, ⟨.other "\x7d", false, none, 91, 92, some 50⟩,
    ⟨.other "\x7d", false, none, 93, 94, some 28⟩]

/-- Two functions, each of which returns what the other one gives: the first one all of it, the
second one a member of it, or else an object with this member. -/
def mutualMember : ModuleGraph where
  root :=
    { document :=
        { text := "function a(n) \x7b return b(n) \x7d\n" ++
            "function b(n) \x7b if (n) return a(n).x; return \x7b x: fetch('/') \x7d \x7d"
          tree :=
            { nodes := mutualNodes
              ends := Tree.endsOf mutualNodes
              nonempty := by decide +kernel
              ends_size := by decide +kernel
              nested := by decide +kernel } }
      path? := some ⟨"main.ts"⟩
      dialect := .typeScript }
  imports := #[]
  links := []

/-- The second function gives a promise if the first one was asked about before, and none if it is
asked about first. -/
theorem not_independentOf_mutualMember :
    (mutualMember.tree 0).candidate? 1 = some { kind := .function, node := 1, name := 3 } ∧
      (mutualMember.tree 0).candidate? 20 = some { kind := .function, node := 20, name := 22 } ∧
        ¬ (Inference.onGraph mutualMember).IndependentOf
          { kind := .function, node := 20, name := 22 }
          [{ kind := .function, node := 1, name := 3 }] := by
  have first : (Inference.onGraph mutualMember).verdictIn? .fresh
      { kind := .function, node := 20, name := 22 } = some false := by
    decide +kernel
  have second : (((Inference.onGraph mutualMember).sessionAfter?
      [{ kind := .function, node := 1, name := 3 }]).map fun session =>
        (Inference.onGraph mutualMember).verdictIn? session
          { kind := .function, node := 20, name := 22 }) = some (some true) := by
    decide +kernel
  refine ⟨by decide +kernel, by decide +kernel, fun independent => ?_⟩
  obtain ⟨session, reached, verdict⟩ := Option.map_eq_some_iff.mp second
  have same := independent session reached
  rw [verdict, first] at same
  simp at same

end PromiseDetection

import PromiseDetection.Proofs.Typing.Awaiting
import PromiseDetection.Proofs.Typing.Balance

/-!
The functions that are being read form a stack.

Inference is put beside an inference that attends to the stack of the functions it is reading. The
attending one looks at its session before and after every answer, and at every change of it. Where
the session does not mark exactly the functions of the stack as being read, each with its height,
or where a cycle has led above the stack, it loses its run. It never does: both have the same runs.
So the stack is restored on every path, and nothing is being read between two questions.
-/

namespace PromiseDetection

namespace Session

def level? (session : Session) (function : Site) : Option Nat :=
  match session.states.lookup function with
  | some (.reading level) => some level
  | _ => none

/-- The session reads the functions of the stack, the outermost one first, and no other ones. -/
structure Matches (session : Session) (stack : List Site) : Prop where
  nesting : session.nesting = stack.length
  reading : ∀ function level, session.level? function = some level ↔ stack[level]? = some function
  lowestCycle : ∀ floor, session.lowestCycle = some floor → floor < session.nesting

variable {session before after : Session} {stack : List Site} {function : Site}

theorem level?_eq_some_iff {level : Nat} :
    session.level? function = some level ↔
      session.states.lookup function = some (.reading level) := by
  unfold level?
  split
  · next found => simp [found]
  · next other =>
    constructor
    · intro absurdity
      simp at absurdity
    · intro found
      exact absurd found (other level)

theorem matches_iff :
    session.Matches stack ↔
      session.nesting = stack.length ∧
        (∀ known ∈ session.states, ∀ level ∈ session.level? known.1,
          stack[level]? = some known.1) ∧
        (∀ level, ∀ inside : level < stack.length, session.level? stack[level] = some level) ∧
        ∀ floor ∈ session.lowestCycle, floor < session.nesting := by
  constructor
  · intro fits
    refine ⟨fits.nesting, ?_, ?_, fits.lowestCycle⟩
    · intro known _ level found
      exact (fits.reading known.1 level).mp found
    · intro level inside
      exact (fits.reading _ level).mpr (List.getElem?_eq_getElem inside)
  · rintro ⟨nesting, marked, listed, lowestCycle⟩
    refine ⟨nesting, fun function level => ⟨fun found => ?_, fun found => ?_⟩, lowestCycle⟩
    · obtain ⟨first, last, split, _⟩ :=
        List.lookup_eq_some_iff.mp (level?_eq_some_iff.mp found)
      exact marked (function, .reading level) (by simp [split]) level found
    · obtain ⟨inside, rfl⟩ := List.getElem?_eq_some_iff.mp found
      exact listed level inside

instance (session : Session) (stack : List Site) : Decidable (session.Matches stack) :=
  decidable_of_iff _ matches_iff.symm

theorem level?_opened (session : Session) (function sought : Site) :
    (session.opened function).level? sought =
      if sought = function then some session.nesting else session.level? sought := by
  simp only [level?, lookup_opened]
  by_cases same : sought = function <;> simp [same]

theorem level?_closed (session before : Session) (function sought : Site) (kept? : Option Ty) :
    (session.closed before function kept?).level? sought =
      if sought = function then none else session.level? sought := by
  simp only [level?, lookup_closed]
  by_cases same : sought = function <;> cases kept? <;> simp [same]

namespace Matches

theorem fresh : Session.fresh.Matches [] :=
  ⟨rfl, fun _ _ => by simp [level?, Session.fresh], fun _ found => nomatch found⟩

theorem idle (fits : session.Matches []) : session.Idle where
  nesting := fits.nesting
  lowestCycle := by
    cases found : session.lowestCycle with
    | none => rfl
    | some floor =>
      have below := fits.lowestCycle floor found
      rw [fits.nesting] at below
      exact absurd below (Nat.not_lt_zero floor)
  reading := by
    intro function
    have unread (level : Nat) : session.level? function ≠ some level := by
      simp [fits.reading]
    unfold isReading
    split
    · next level found => exact absurd (level?_eq_some_iff.mpr found) (unread level)
    · rfl

theorem touched {level : Nat} (fits : session.Matches stack)
    (found : session.states.lookup function = some (.reading level)) :
    (session.touched level).Matches stack := by
  refine ⟨fits.nesting, fits.reading, fun floor lowest => ?_⟩
  have onStack := (fits.reading function level).mp (level?_eq_some_iff.mpr found)
  obtain ⟨inside, _⟩ := List.getElem?_eq_some_iff.mp onStack
  have below : level < session.nesting := by rw [fits.nesting]; exact inside
  show floor < session.nesting
  cases earlier : session.lowestCycle with
  | none =>
    simp only [Session.touched, earlier, lower, Option.some.injEq] at lowest
    exact lowest ▸ below
  | some known =>
    simp only [Session.touched, earlier, lower, Option.some.injEq] at lowest
    rw [← lowest]
    exact Nat.lt_of_le_of_lt (Nat.min_le_right known level) below

theorem getElem?_concat_of_ne {sought : Site} {level : Nat} (other : sought ≠ function) :
    (stack ++ [function])[level]? = some sought ↔ stack[level]? = some sought := by
  rw [List.getElem?_append]
  by_cases inside : level < stack.length
  · simp [inside]
  · simp [inside, List.getElem?_singleton, Ne.symm other]

theorem not_mem (fits : session.Matches stack)
    (unseen : session.states.lookup function = none) (level : Nat) :
    stack[level]? ≠ some function := by
  intro onStack
  have found := level?_eq_some_iff.mp ((fits.reading function level).mpr onStack)
  simp [unseen] at found

theorem opened (fits : session.Matches stack)
    (unseen : session.states.lookup function = none) :
    (session.opened function).Matches (stack ++ [function]) := by
  constructor
  case nesting => simp [Session.opened, fits.nesting]
  case reading =>
    intro sought level
    rw [level?_opened, fits.nesting]
    by_cases same : sought = function
    · subst same
      rw [List.getElem?_append]
      by_cases inside : level < stack.length
      · have below := fits.not_mem unseen level
        simp only [inside, if_true, below, iff_false, Option.some.injEq]
        exact Nat.ne_of_gt inside
      · simp [inside, List.getElem?_singleton]
        omega
    · rw [if_neg same, fits.reading, getElem?_concat_of_ne same]
  case lowestCycle =>
    intro floor lowest
    exact nomatch lowest

theorem closed {kept? : Option Ty} (fits : before.Matches stack)
    (unseen : before.states.lookup function = none)
    (reached : after.Matches (stack ++ [function])) :
    (after.closed before function kept?).Matches stack := by
  constructor
  case nesting => exact fits.nesting
  case reading =>
    intro sought level
    rw [level?_closed]
    by_cases same : sought = function
    · subst same
      simpa using fits.not_mem unseen level
    · rw [if_neg same, reached.reading, getElem?_concat_of_ne same]
  case lowestCycle =>
    intro floor lowest
    show floor < before.nesting
    simp only [Session.closed] at lowest
    by_cases tainted : after.isTainted before.nesting = true
    · rw [if_pos tainted] at lowest
      unfold isTainted at tainted
      split at tainted
      · next deep found =>
        have deeper : deep < before.nesting := by simpa using tainted
        rw [found] at lowest
        cases earlier : before.lowestCycle with
        | none =>
          simp only [earlier, lower, Option.some.injEq] at lowest
          exact lowest ▸ deeper
        | some known =>
          simp only [earlier, lower, Option.some.injEq] at lowest
          rw [← lowest]
          exact Nat.lt_of_le_of_lt (Nat.min_le_right known deep) deeper
      · simp at tainted
    · rw [if_neg tainted] at lowest
      exact fits.lowestCycle floor lowest

end Matches

end Session

namespace Inquiry

/-- Leaves a session that matches the stack as it is, and loses the run in any other session. -/
def insist (stack : List Site) : Inquiry Unit := fun session =>
  if session.Matches stack then some ((), session) else none

-- A function that was opened and not closed is noticed.
example : insist [] (Session.fresh.opened { node := 1, module := 0 }) = none := by decide

def within {α : Type} (stack : List Site) (inquiry : Inquiry α) : Inquiry α := do
  insist stack
  let answer ← inquiry
  insist stack
  return answer

end Inquiry

/-- Reads a function once in a session, on top of a stack, and looks at every change. -/
def Infer.attended (stack : List Site) (read : Site → Infer Ty) (function : Site) : Infer Ty :=
  ExceptT.mk do
    let before ← get
    match before.states.lookup function with
    | some (.known type) => return .ok type
    | some (.reading level) =>
      set (before.touched level)
      Inquiry.insist stack
      return .error .cycle
    | none =>
      set (before.opened function)
      let result ← Inquiry.within (stack ++ [function]) (read function).attempt
      modify fun session => session.closed before function (session.kept? before.nesting result)
      Inquiry.insist stack
      return result

namespace Judgements

def within (stack : List Site) (judgements : Judgements) : Judgements where
  expression place := ExceptT.mk (.within stack (judgements.expression place).run)
  declaration known := ExceptT.mk (.within stack (judgements.declaration known).run)
  member owner name := ExceptT.mk (.within stack (judgements.member owner name).run)
  memberOfClass owner name isStatic :=
    ExceptT.mk (.within stack (judgements.memberOfClass owner name isStatic).run)
  signature callee := ExceptT.mk (.within stack (judgements.signature callee).run)
  functionReturn function := ExceptT.mk (.within stack (judgements.functionReturn function).run)
  thenable type := .within stack (judgements.thenable type)
  awaited type := .within stack (judgements.awaited type)

/-- The judgements with a number of levels, asked while the functions of a stack are being read. -/
def attending (manner : Manner) (graph : ModuleGraph) : (levels : Nat) → List Site → Judgements
  | 0, stack =>
    within stack (exhausted
      { manner with read := fun _ => .attended stack fun _ => throw .tooDeep } graph)
  | levels + 1, stack =>
    within stack (step
      { manner with
        read := fun _ => .attended stack fun function =>
          (attending manner graph levels (stack ++ [function])).bodyReturnStep graph function }
      graph levels (attending manner graph levels stack))

end Judgements

/-- A family whose second member attends to a stack: in a session that matches the stack both have
the same run, and it ends in such a session. -/
def attendance (stack : List Site) : Law Bool where
  holds family := ∀ session : Session, session.Matches stack →
    family true session = family false session ∧
      ∀ outcome, family false session = some outcome → outcome.2.Matches stack
  ofPure value session fits := by
    refine ⟨rfl, fun outcome came => ?_⟩
    cases came
    exact fits
  ofBind := by
    intro α β first next begun continued session fits
    obtain ⟨same, ends⟩ := begun session fits
    show (first true session).bind _ = (first false session).bind _ ∧ _
    rw [same]
    cases came : first false session with
    | none =>
      refine ⟨rfl, fun outcome finished => ?_⟩
      obtain ⟨reached, absent, _⟩ := Option.bind_eq_some_iff.mp finished
      simp [came] at absent
    | some reached =>
      obtain ⟨sameAfter, endsAfter⟩ := continued reached.1 reached.2 (ends reached came)
      refine ⟨sameAfter, fun outcome finished => ?_⟩
      obtain ⟨again, found, onward⟩ := Option.bind_eq_some_iff.mp finished
      cases came.symm.trans found
      exact endsAfter outcome onward

section

variable {α : Type} {stack : List Site}

theorem Inquiry.insist_of_matches {session : Session} (fits : session.Matches stack) :
    Inquiry.insist stack session = some ((), session) :=
  if_pos fits

theorem Inquiry.within_eq {inquiry : Inquiry α} {session : Session} (fits : session.Matches stack)
    (ends : ∀ outcome, inquiry session = some outcome → outcome.2.Matches stack) :
    Inquiry.within stack inquiry session = inquiry session := by
  have begun : Inquiry.within stack inquiry session =
      (inquiry session).bind fun reached =>
        (Inquiry.insist stack reached.2).map fun finished => (reached.1, finished.2) := by
    show (Inquiry.insist stack session).bind _ = _
    rw [Inquiry.insist_of_matches fits]
    show (inquiry session).bind _ = _
    refine congrArg _ (funext fun reached => ?_)
    show (Inquiry.insist stack reached.2).bind _ = _
    cases Inquiry.insist stack reached.2 <;> rfl
  rw [begun]
  cases came : inquiry session with
  | none => rfl
  | some reached =>
    show (Inquiry.insist stack reached.2).map _ = _
    rw [Inquiry.insist_of_matches (ends reached came)]
    rfl

theorem attendance_within {family : Bool → Inquiry α} (held : (attendance stack).holds family) :
    (attendance stack).holds fun index =>
      cond index (.within stack (family true)) (family false) := by
  intro session fits
  obtain ⟨same, ends⟩ := held session fits
  refine ⟨?_, ends⟩
  show Inquiry.within stack (family true) session = family false session
  rw [← same] at ends ⊢
  exact Inquiry.within_eq fits ends

theorem Infer.run_attended (read : Site → Infer Ty) (function : Site) (session : Session) :
    (Infer.attended stack read function).run session =
      match session.states.lookup function with
      | some (.known type) => some (.ok type, session)
      | some (.reading level) =>
        (Inquiry.insist stack (session.touched level)).map fun reached => (.error .cycle, reached.2)
      | none =>
        ((read function).attempt.within (stack ++ [function]) (session.opened function)).bind
          fun reached =>
            (Inquiry.insist stack
              (reached.2.closed session function (reached.2.kept? session.nesting reached.1))).map
                fun left => (reached.1, left.2) := by
  have begun : (Infer.attended stack read function).run session =
      (match session.states.lookup function with
        | some (.known type) => return .ok type
        | some (.reading level) => do
          set (session.touched level)
          Inquiry.insist stack
          return .error .cycle
        | none => do
          set (session.opened function)
          let result ← (read function).attempt.within (stack ++ [function])
          modify fun later => later.closed session function (later.kept? session.nesting result)
          Inquiry.insist stack
          return result : Inquiry (Except InferenceError Ty)) session := rfl
  rw [begun]
  cases session.states.lookup function with
  | some state =>
    cases state with
    | known type => rfl
    | reading level =>
      show (Inquiry.insist stack (session.touched level)).bind _ =
        (Inquiry.insist stack (session.touched level)).map _
      cases Inquiry.insist stack (session.touched level) <;> rfl
  | none =>
    show ((read function).attempt.within (stack ++ [function]) (session.opened function)).bind _ = _
    refine congrArg _ (funext fun reached => ?_)
    show (Inquiry.insist stack (reached.2.closed _ _ _)).bind _ = _
    cases Inquiry.insist stack (reached.2.closed session function
      (reached.2.kept? session.nesting reached.1)) <;> rfl

theorem attendance_attended {reads : Bool → Site → Infer Ty} {function : Site}
    (allowed : (attendance (stack ++ [function])).allows fun index => reads index function) :
    (attendance stack).allows fun index =>
      cond index (.attended stack (reads true) function)
        (Infer.remembered (reads false) function) := by
  intro session fits
  show (Infer.attended stack (reads true) function).run session =
      (Infer.remembered (reads false) function).run session ∧
    ∀ outcome, (Infer.remembered (reads false) function).run session = some outcome →
      outcome.2.Matches stack
  rw [Infer.run_attended, Infer.run_remembered]
  cases found : session.states.lookup function with
  | some state =>
    cases state with
    | known type =>
      refine ⟨rfl, fun outcome came => ?_⟩
      cases came
      exact fits
    | reading level =>
      have touched := fits.touched found
      refine ⟨by simp only [Inquiry.insist_of_matches touched, Option.map_some], ?_⟩
      intro outcome came
      cases came
      exact touched
  | none =>
    obtain ⟨same, ends⟩ := attendance_within allowed _ (fits.opened found)
    have ran : (reads true function).attempt.within (stack ++ [function])
        (session.opened function) = (reads false function).run (session.opened function) := same
    dsimp only
    rw [ran]
    cases came : (reads false function).run (session.opened function) with
    | none => exact ⟨rfl, fun _ absurdity => nomatch absurdity⟩
    | some reached =>
      have closed : (reached.2.closed session function
          (reached.2.kept? session.nesting reached.1)).Matches stack :=
        fits.closed found (ends reached came)
      refine ⟨?_, fun outcome finished => ?_⟩
      · simp only [Option.bind_some, Inquiry.insist_of_matches closed, Option.map_some]
      · cases finished
        exact closed

end

namespace Judgements

theorem lawful_within {stack : List Site} {judgements : Bool → Judgements}
    (lawful : Lawful (attendance stack) judgements) :
    Lawful (attendance stack) fun index =>
      cond index (within stack (judgements true)) (judgements false) := by
  have guarded {α : Type} {inquiry other : Bool → Inquiry α}
      (held : (attendance stack).holds inquiry)
      (attended : Inquiry.within stack (inquiry true) = other true)
      (plain : inquiry false = other false) : (attendance stack).holds other := by
    refine Law.holds_congr (fun index => ?_) (attendance_within held)
    cases index with
    | false => exact plain
    | true => exact attended
  constructor
  case expression => exact fun place => guarded (lawful.expression place) rfl rfl
  case declaration => exact fun known => guarded (lawful.declaration known) rfl rfl
  case member => exact fun owner name => guarded (lawful.member owner name) rfl rfl
  case memberOfClass =>
    exact fun owner name isStatic => guarded (lawful.memberOfClass owner name isStatic) rfl rfl
  case signature => exact fun callee => guarded (lawful.signature callee) rfl rfl
  case functionReturn => exact fun function => guarded (lawful.functionReturn function) rfl rfl
  case thenable => exact fun type => guarded (lawful.thenable type) rfl rfl
  case awaited => exact fun type => guarded (lawful.awaited type) rfl rfl

theorem attendance_await (inference : Inference) (levels : Nat) {stack : List Site}
    {thenable : Bool → Ty → Inquiry Bool}
    (held : ∀ type, (attendance stack).holds fun index => thenable index type) (type : Ty) :
    (attendance stack).holds fun index =>
      inference.manner.await inference.graph levels (thenable index) type := by
  apply Law.holds_awaited _ held
  left
  intro session fits
  exact ⟨rfl, fun _ came => nomatch came⟩

/-- Attending judgements have the runs of the plain ones, whatever stack is being read. -/
theorem lawful_attending (inference : Inference) (levels : Nat) (stack : List Site) :
    Lawful (attendance stack) fun index =>
      cond index (attending inference.manner inference.graph levels stack)
        (withLevels inference.manner inference.graph levels) := by
  induction levels generalizing stack with
  | zero =>
    let manners (index : Bool) : Manner :=
      { inference.manner with
        read := cond index (fun _ => .attended stack fun _ => throw .tooDeep) Infer.remembered }
    have bottom : Lawful (attendance stack) fun index =>
        exhausted (manners index) inference.graph := by
      apply lawful_exhausted_of
      · intro function
        have failed := (attendance (stack ++ [function])).allows_throw (α := Ty) .tooDeep
        apply Law.holds_congr _ (@attendance_attended stack (fun _ _ => throw .tooDeep) _ failed)
        intro index
        cases index <;> rfl
      · exact attendance_await inference 0 fun _ => (attendance stack).ofPure false
    apply Lawful.congr (lawful_within bottom)
    intro index
    cases index <;> rfl
  | succ levels inductionHypothesis =>
    let below (index : Bool) : Judgements :=
      cond index (attending inference.manner inference.graph levels stack)
        (withLevels inference.manner inference.graph levels)
    let body (function : Site) : Infer Ty :=
      (attending inference.manner inference.graph levels (stack ++ [function])).bodyReturnStep
        inference.graph function
    let manners (index : Bool) : Manner :=
      { inference.manner with
        read := cond index (fun _ => .attended stack body) Infer.remembered }
    have held : Lawful (attendance stack) below := inductionHypothesis stack
    have above : Lawful (attendance stack) fun index =>
        step (manners index) inference.graph levels (below index) := by
      apply lawful_step_of held
      · intro function
        have deeper := (inductionHypothesis (stack ++ [function])).bodyReturnStep
          inference.graph function
        apply Law.holds_congr _ (attendance_attended deeper)
        intro index
        cases index <;> rfl
      · exact attendance_await inference (levels + 1) (held.thenableStep inference.graph levels)
    apply Lawful.congr (lawful_within above)
    intro index
    cases index <;> rfl

inductive Query where
  | expression (place : Site)
  | member (owner : Ty) (name : String)
  | call (call : Site)
  | function (function : Site)
  | thenable (type : Ty)
  | verdict (candidate : Candidate)

def ask (judgements : Judgements) (graph : ModuleGraph) : Query → Infer (Ty ⊕ Bool)
  | .expression place => return .inl (← judgements.expression place)
  | .member owner name => return .inl (← judgements.member owner name)
  | .call call => return .inl (← judgements.callReturn graph call)
  | .function function => return .inl (← judgements.functionReturn function)
  | .thenable type => return .inr (← judgements.thenable type)
  | .verdict candidate => return .inr (← judgements.yields graph candidate)

theorem Lawful.ask {ι : Type} {law : Law ι} {judgements : ι → Judgements}
    (lawful : Lawful law judgements) (graph : ModuleGraph) (query : Query) :
    law.allows fun index => (judgements index).ask graph query := by
  cases query with
  | expression place => exact Law.allows_bind (lawful.expression place) fun _ => law.allows_pure _
  | member owner name => exact Law.allows_bind (lawful.member owner name) fun _ => law.allows_pure _
  | call call => exact Law.allows_bind (lawful.callReturn graph call) fun _ => law.allows_pure _
  | function function =>
    exact Law.allows_bind (lawful.functionReturn function) fun _ => law.allows_pure _
  | thenable type =>
    exact Law.allows_bind (Law.allows_lift (lawful.thenable type)) fun _ => law.allows_pure _
  | verdict candidate =>
    exact Law.allows_bind (lawful.yields graph candidate) fun _ => law.allows_pure _

end Judgements

namespace Inference

/-- Asks one question after the other. A failure is an answer too. -/
def asked (inference : Inference) (queries : List Judgements.Query) :
    Inquiry (List (Except InferenceError (Ty ⊕ Bool))) :=
  queries.mapM fun query => (inference.judgements.ask inference.graph query).attempt

/-- The same, with an eye on the stack all the time. -/
def askedAttentively (inference : Inference) (queries : List Judgements.Query) :
    Inquiry (List (Except InferenceError (Ty ⊕ Bool))) :=
  queries.mapM fun query =>
    ((Judgements.attending inference.manner inference.graph inference.levels []).ask
      inference.graph query).attempt

/-- **Stacks.** Whatever is asked in a session, and whether it succeeds or fails, an eye on the
stack sees nothing wrong at any moment, and afterwards nothing is being read. -/
theorem asked_attentively (inference : Inference) (queries : List Judgements.Query) :
    (inference.askedAttentively queries).run .fresh = (inference.asked queries).run .fresh ∧
      ∀ answers session, (inference.asked queries).run .fresh = some (answers, session) →
        session.nesting = 0 ∧ session.lowestCycle = none ∧
          ∀ function level, session.states.lookup function ≠ some (.reading level) := by
  have lawful := Judgements.lawful_attending inference inference.levels []
  have each (query : Judgements.Query) := Law.holds_attempt (lawful.ask inference.graph query)
  have held : (attendance []).holds fun index =>
      cond index (inference.askedAttentively queries) (inference.asked queries) := by
    apply Law.holds_congr _ (Law.holds_mapM fun query (_ : query ∈ queries) => each query)
    intro index
    cases index <;> rfl
  obtain ⟨same, ends⟩ := held .fresh .fresh
  refine ⟨same, fun answers session came => ?_⟩
  have fits : session.Matches [] := ends (answers, session) came
  refine ⟨fits.idle.nesting, fits.idle.lowestCycle, fun function level found => ?_⟩
  have onStack := (fits.reading function level).mp (Session.level?_eq_some_iff.mpr found)
  simp at onStack

end Inference

end PromiseDetection

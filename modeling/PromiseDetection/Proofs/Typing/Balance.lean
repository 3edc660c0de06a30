import PromiseDetection.Proofs.Typing.Law

/-!
What inference leaves as it was in its session.

Every function that is opened is closed again, and no cycle leads back to a function that is not
being read. So a session that reads nothing reads nothing afterwards either.
-/

namespace PromiseDetection

namespace Session

def isReading (session : Session) (function : Site) : Bool :=
  match session.states.lookup function with
  | some (.reading _) => true
  | _ => false

structure Idle (session : Session) : Prop where
  nesting : session.nesting = 0
  lowestCycle : session.lowestCycle = none
  reading : ∀ function, session.isReading function = false

theorem idle_fresh : fresh.Idle := ⟨rfl, rfl, fun _ => rfl⟩

theorem lookup_opened (session : Session) (function sought : Site) :
    (session.opened function).states.lookup sought =
      if sought = function then some (.reading session.nesting)
      else session.states.lookup sought :=
  session.lookup_remember function sought _

theorem lookup_closed (session before : Session) (function sought : Site) (kept? : Option Ty) :
    (session.closed before function kept?).states.lookup sought =
      if sought = function then kept?.map .known else session.states.lookup sought := by
  cases kept? with
  | none => exact session.lookup_forget function sought
  | some type => exact session.lookup_remember function sought (.known type)

theorem isReading_opened (session : Session) (function sought : Site) :
    (session.opened function).isReading sought =
      if sought = function then true else session.isReading sought := by
  simp only [isReading, lookup_opened]
  by_cases same : sought = function <;> simp [same]

theorem isReading_closed (session before : Session) (function sought : Site) (kept? : Option Ty) :
    (session.closed before function kept?).isReading sought =
      if sought = function then false else session.isReading sought := by
  simp only [isReading, lookup_closed]
  by_cases same : sought = function <;> cases kept? <;> simp [same]

/-- What a computation leaves as it was in its session. -/
structure Balanced (before after : Session) : Prop where
  nesting : after.nesting = before.nesting
  reading : ∀ function, after.isReading function = before.isReading function
  lowestCycle : before.Idle → after.lowestCycle = none

namespace Balanced

variable {session before after later : Session} {function : Site}

theorem refl (session : Session) : Balanced session session :=
  ⟨rfl, fun _ => rfl, Idle.lowestCycle⟩

theorem idle (balanced : Balanced before after) (idle : before.Idle) : after.Idle :=
  ⟨balanced.nesting.trans idle.nesting, balanced.lowestCycle idle,
    fun function => (balanced.reading function).trans (idle.reading function)⟩

theorem trans (first : Balanced before after) (second : Balanced after later) :
    Balanced before later :=
  ⟨second.nesting.trans first.nesting,
    fun function => (second.reading function).trans (first.reading function),
    fun idle => second.lowestCycle (first.idle idle)⟩

theorem touched {level : Nat} (found : session.states.lookup function = some (.reading level)) :
    Balanced session (session.touched level) := by
  refine ⟨rfl, fun _ => rfl, fun idle => ?_⟩
  have absent := idle.reading function
  simp [isReading, found] at absent

theorem closed {kept? : Option Ty} (unseen : session.states.lookup function = none)
    (balanced : Balanced (session.opened function) after) :
    Balanced session (after.closed session function kept?) := by
  refine ⟨rfl, fun sought => ?_, fun idle => ?_⟩
  · rw [isReading_closed]
    by_cases same : sought = function
    · simp [same, isReading, unseen]
    · rw [if_neg same, balanced.reading sought, isReading_opened, if_neg same]
  · have untainted : after.isTainted 0 = false := by
      cases floor : after.lowestCycle <;> simp [isTainted, floor]
    simp [Session.closed, idle.nesting, untainted, idle.lowestCycle]

end Balanced

end Session

def balance : Law Unit where
  holds family := ∀ session outcome, family () session = some outcome →
    Session.Balanced session outcome.2
  ofPure value session outcome came := by
    cases came
    exact .refl session
  ofBind := by
    intro α β first next begun continued session outcome came
    obtain ⟨reached, first, finished⟩ := Option.bind_eq_some_iff.mp came
    exact (begun session reached first).trans (continued reached.1 reached.2 outcome finished)

theorem balance_remembered {read : Site → Infer Ty} {function : Site}
    (allowed : balance.allows fun _ => read function) :
    balance.allows fun _ => Infer.remembered read function := by
  intro session outcome came
  have ran := (Infer.run_remembered read function session).symm.trans came
  cases found : session.states.lookup function with
  | some state =>
    cases state with
    | known type =>
      simp only [found, Option.some.injEq] at ran
      exact ran ▸ .refl session
    | reading level =>
      simp only [found, Option.some.injEq] at ran
      exact ran ▸ .touched found
  | none =>
    simp only [found] at ran
    obtain ⟨reached, read, closed⟩ := Option.map_eq_some_iff.mp ran
    exact closed ▸ .closed found (allowed _ reached read)

theorem balance_endless {α : Type} : balance.holds fun _ => (.endless : Inquiry α) :=
  fun _ _ came => nomatch came

end PromiseDetection

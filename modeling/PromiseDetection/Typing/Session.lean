import PromiseDetection.Association
import PromiseDetection.Typing.Ty

/-!
Inference sessions.

A session remembers the return types it has found and which functions it is reading at the moment.
A function that is asked for while it is being read is a cycle. What was found by way of a cycle
through a function that is still being read is not remembered.
-/

namespace PromiseDetection

inductive FunctionState where
  /-- The function is being read, at this level of nesting. -/
  | reading (level : Nat)
  | known (result : Ty)
  deriving DecidableEq

structure Session where
  states : List (Site × FunctionState)
  /-- The number of functions that are being read. -/
  nesting : Nat
  /-- The lowest level that a cycle has led back to since the innermost function was begun. -/
  lowestCycle : Option Nat
  deriving DecidableEq

namespace Session

def fresh : Session := { states := [], nesting := 0, lowestCycle := none }

/-- The lower of two levels, where no level is above all others. -/
def lower : Option Nat → Option Nat → Option Nat
  | none, other => other
  | some level, none => some level
  | some level, some other => some (min level other)

def forget (session : Session) (function : Site) : Session :=
  { session with states := session.states.filter fun known => known.1 ≠ function }

def remember (session : Session) (function : Site) (state : FunctionState) : Session :=
  { session with states := (function, state) :: (session.forget function).states }

theorem lookup_forget (session : Session) (function sought : Site) :
    (session.forget function).states.lookup sought =
      if sought = function then none else session.states.lookup sought :=
  Association.lookup_without session.states function sought

theorem lookup_remember (session : Session) (function sought : Site) (state : FunctionState) :
    (session.remember function state).states.lookup sought =
      if sought = function then some state else session.states.lookup sought :=
  Association.lookup_replaced session.states function sought state

/-- The session once a cycle has led back to a level. -/
def touched (session : Session) (level : Nat) : Session :=
  { session with lowestCycle := lower session.lowestCycle (some level) }

def opened (session : Session) (function : Site) : Session :=
  { session.remember function (.reading session.nesting) with
    nesting := session.nesting + 1
    lowestCycle := none }

def isTainted (session : Session) (level : Nat) : Bool :=
  match session.lowestCycle with
  | some floor => floor < level
  | none => false

/-- What is worth remembering of a function that was begun at a level: its type, unless a cycle led
below that level. -/
def kept? (session : Session) (level : Nat) (result : Except InferenceError Ty) : Option Ty :=
  match result with
  | .ok type => if session.isTainted level then none else some type
  | .error _ => none

/-- The session after a function was read that was begun in the session `before`. -/
def closed (session before : Session) (function : Site) (kept? : Option Ty) : Session :=
  let settled :=
    match kept? with
    | some type => session.remember function (.known type)
    | none => session.forget function
  { settled with
    nesting := before.nesting
    lowestCycle :=
      if session.isTainted before.nesting then lower before.lowestCycle session.lowestCycle
      else before.lowestCycle }

end Session

/-- A computation in a session. It may have no outcome at all. -/
abbrev Inquiry := StateT Session Option

namespace Inquiry

def endless {α : Type} : Inquiry α := fun _ => none

/-- Does an item satisfy the test? Items after the first hit are not tested. -/
def anyOf {α : Type} (test : α → Inquiry Bool) : List α → Inquiry Bool
  | [] => pure false
  | first :: rest => do
    if ← test first then pure true else anyOf test rest

end Inquiry

/-- Inference in a session. It may fail with a reason, and it keeps its session then. -/
abbrev Infer := ExceptT InferenceError Inquiry

namespace Infer

def attempt {α : Type} (computation : Infer α) : Inquiry (Except InferenceError α) :=
  computation.run

def ofExcept {α : Type} (result : Except InferenceError α) : Infer α := ExceptT.mk (pure result)

/-- The result of a computation, or the unknown type where it fails. -/
def orUnknown (computation : Infer Ty) : Inquiry Ty := do
  match ← computation.attempt with
  | .ok type => pure type
  | .error _ => pure .unknown

def successes {α : Type} (ask : α → Infer Ty) : List α → Inquiry (List Ty)
  | [] => pure []
  | first :: rest => do
    match ← (ask first).attempt with
    | .ok type => return type :: (← successes ask rest)
    | .error _ => successes ask rest

/-- Reads a function once in a session, and remembers the type that is found. -/
def remembered (read : Site → Infer Ty) (function : Site) : Infer Ty := ExceptT.mk do
  let before ← get
  match before.states.lookup function with
  | some (.known type) => return .ok type
  | some (.reading level) =>
    set (before.touched level)
    return .error .cycle
  | none =>
    set (before.opened function)
    let result ← (read function).attempt
    modify fun session => session.closed before function (session.kept? before.nesting result)
    return result

theorem run_remembered (read : Site → Infer Ty) (function : Site) (session : Session) :
    (Infer.remembered read function).run session =
      match session.states.lookup function with
      | some (.known type) => some (.ok type, session)
      | some (.reading level) => some (.error .cycle, session.touched level)
      | none =>
        ((read function).run (session.opened function)).map fun reached =>
          (reached.1,
            reached.2.closed session function (reached.2.kept? session.nesting reached.1)) := by
  have begun : (Infer.remembered read function).run session =
      (match session.states.lookup function with
        | some (.known type) => return .ok type
        | some (.reading level) => do
          set (session.touched level)
          return .error .cycle
        | none => do
          set (session.opened function)
          let result ← (read function).attempt
          modify fun later => later.closed session function (later.kept? session.nesting result)
          return result : Inquiry (Except InferenceError Ty)) session := rfl
  rw [begun]
  cases session.states.lookup function with
  | some state => cases state <;> rfl
  | none =>
    show ((read function).run (session.opened function)).bind _ = _
    cases (read function).run (session.opened function) <;> rfl

end Infer

end PromiseDetection

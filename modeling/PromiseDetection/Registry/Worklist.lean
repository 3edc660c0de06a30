import PromiseDetection.Analysis.Cancellation
import PromiseDetection.Registry.Definition

/-!
Collecting the registry of a document.

Every definition is judged once. After that a definition is judged again only when one of the
entries it waits for is registered, so the work is bounded by the number of definitions and of
entries they wait for, whatever the order in which the document defines things.
-/

namespace PromiseDetection

/-- Work in progress: the registry so far, the new entries whose dependents are still to be judged
again, the definitions that wait for an entry, and how often a definition was judged again. -/
structure Worklist where
  registry : Registry
  queue : List Entry
  waiting : List (Entry × Definition)
  retries : Nat

namespace Worklist

/-- Judges a definition and registers its target if the verdict is positive and new. -/
def tryRegister (document : Document) (work : Worklist) (definition : Definition) : Worklist :=
  if definition.isPositive document work.registry && !work.registry.contains definition.target then
    { work with
      registry := work.registry.register definition.target
      queue := work.queue ++ [definition.target] }
  else work

def retry (document : Document) (work : Worklist) (definition : Definition) : Worklist :=
  if work.registry.contains definition.target then work
  else tryRegister document { work with retries := work.retries + 1 } definition

def dependents (work : Worklist) (entry : Entry) : List Definition :=
  (work.waiting.filter fun wait => wait.1 = entry).map (·.2)

/-- Takes the first new entry off the queue and judges again whatever waited for it. -/
def advance (document : Document) (work : Worklist) (entry : Entry) (rest : List Entry) :
    Worklist :=
  (work.dependents entry).foldl (retry document)
    { work with
      queue := rest
      waiting := work.waiting.filter fun wait => wait.1 ≠ entry }

theorem waiting_retry (document : Document) (work : Worklist) (definition : Definition) :
    (retry document work definition).waiting = work.waiting := by
  unfold retry tryRegister
  split
  · rfl
  · split <;> rfl

theorem queue_length_retry (document : Document) (work : Worklist) (definition : Definition) :
    (retry document work definition).queue.length ≤ work.queue.length + 1 := by
  unfold retry tryRegister
  split
  · omega
  · split <;> simp

theorem waiting_foldl_retry (document : Document) (definitions : List Definition)
    (work : Worklist) :
    (definitions.foldl (retry document) work).waiting = work.waiting := by
  induction definitions generalizing work with
  | nil => rfl
  | cons definition rest inductionHypothesis =>
    simp only [List.foldl_cons, inductionHypothesis, waiting_retry]

theorem queue_length_foldl_retry (document : Document) (definitions : List Definition)
    (work : Worklist) :
    (definitions.foldl (retry document) work).queue.length ≤
      work.queue.length + definitions.length := by
  induction definitions generalizing work with
  | nil => simp
  | cons definition rest inductionHypothesis =>
    have below := inductionHypothesis (retry document work definition)
    have single := queue_length_retry document work definition
    simp only [List.foldl_cons, List.length_cons]
    omega

/-- A step leaves fewer entries and waiting definitions together than it found. -/
theorem remaining_advance_lt (document : Document) (work : Worklist) (entry : Entry)
    (rest : List Entry) (front : work.queue = entry :: rest) :
    (advance document work entry rest).queue.length +
        (advance document work entry rest).waiting.length <
      work.queue.length + work.waiting.length := by
  have queueBound := queue_length_foldl_retry document (work.dependents entry)
    { work with
      queue := rest
      waiting := work.waiting.filter fun wait => wait.1 ≠ entry }
  have waitingKept := waiting_foldl_retry document (work.dependents entry)
    { work with
      queue := rest
      waiting := work.waiting.filter fun wait => wait.1 ≠ entry }
  have parts : (work.waiting.filter fun wait => decide (wait.1 = entry)).length +
      (work.waiting.filter fun wait => decide (wait.1 ≠ entry)).length =
        work.waiting.length := by
    induction work.waiting with
    | nil => rfl
    | cons wait others inductionHypothesis =>
      by_cases same : wait.1 = entry <;> simp_all <;> omega
  unfold advance
  rw [waitingKept, front]
  simp only [dependents, List.length_map] at queueBound
  simp only [dependents, List.length_cons]
  omega

/-- Follows every new entry until no definition is left to be judged again. -/
def settle (document : Document) (work : Worklist) : Worklist :=
  match _front : work.queue with
  | [] => work
  | entry :: rest => settle document (advance document work entry rest)
termination_by work.queue.length + work.waiting.length
decreasing_by exact remaining_advance_lt document work entry rest _front

end Worklist

namespace Document

def waits (document : Document) (registry : Registry) (definitions : List Definition) :
    List (Entry × Definition) :=
  definitions.flatMap fun definition =>
    (definition.dependencies document registry).map fun entry => (entry, definition)

/-- The work left after every definition was judged once. -/
def firstPass (document : Document) (registry : Registry) (definitions : List Definition) :
    Worklist :=
  definitions.foldl (Worklist.tryRegister document)
    { registry, queue := [], waiting := document.waits registry definitions, retries := 0 }

def settledWork (document : Document) (registry : Registry)
    (definitions : List Definition) : Worklist :=
  (document.firstPass registry definitions).settle document

def instancesOf (document : Document) (visited : List Nat) : Registry :=
  (visited.filterMap document.instanceBinding?).foldl
    (fun registry binding => registry.bind binding.1 binding.2) .empty

def definitionsOf (document : Document) (visited : List Nat) : List Definition :=
  visited.flatMap document.definitionsOfNode

/-- Collects the registry: one walk binds the instances, a second one records the definitions. -/
def collectRegistry (document : Document) : Cancellable Registry := do
  let bound ← Cancellable.walk document.tree
  let recorded ← Cancellable.walk document.tree
  let finished :=
    document.settledWork (document.instancesOf bound) (document.definitionsOf recorded)
  pure finished.registry

end Document

end PromiseDetection

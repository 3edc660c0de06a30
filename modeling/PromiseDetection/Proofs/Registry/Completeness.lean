import Mathlib.Logic.Relation
import PromiseDetection.Proofs.Analysis.Cancellation
import PromiseDetection.Proofs.Registry.Ground
import PromiseDetection.Registry.Worklist

/-!
The worklist misses nothing.

A registry grows by registering one positive definition after the other. The worklist takes such
steps and no others, and it stops only where no further step is possible: every entry that a
definition waits for is either not registered, or still queued, or was registered already when the
definition was judged.
-/

namespace PromiseDetection

namespace Document

/-- One registration: a recorded definition is positive and its target is new. -/
inductive Grows (document : Document) (definitions : List Definition) :
    Registry → Registry → Prop where
  | register {registry : Registry} {definition : Definition} (recorded : definition ∈ definitions)
      (positive : definition.isPositive document registry = true)
      (new : registry.contains definition.target = false) :
      Grows document definitions registry (registry.register definition.target)

theorem Grows.exists_definition {document : Document} {definitions : List Definition}
    {registry grown : Registry} (step : document.Grows definitions registry grown) :
    ∃ definition ∈ definitions, definition.isPositive document registry = true ∧
      registry.contains definition.target = false ∧
        grown = registry.register definition.target := by
  obtain ⟨recorded, positive, new⟩ := step
  exact ⟨_, recorded, positive, new, rfl⟩

def Reaches (document : Document) (definitions : List Definition) :
    Registry → Registry → Prop :=
  Relation.ReflTransGen (document.Grows definitions)

/-- No positive definition is left to be registered. -/
def Settled (document : Document) (definitions : List Definition) (registry : Registry) : Prop :=
  ∀ definition ∈ definitions, definition.isPositive document registry = true →
    registry.contains definition.target = true

theorem Reaches.extends {document : Document} {definitions : List Definition}
    {start finish : Registry} (reached : document.Reaches definitions start finish) :
    finish.Extends start := by
  induction reached with
  | refl => exact Registry.Extends.refl start
  | tail _ step inductionHypothesis =>
    obtain ⟨_, _, _⟩ := step
    exact (Registry.extends_register _ _).trans inductionHypothesis

/-- The definition was judged while the registry was in some condition: it is registered by now, or
it was negative then. -/
def JudgedWhen (document : Document) (registry : Registry) (definition : Definition)
    (condition : Registry → Prop) : Prop :=
  registry.contains definition.target = true ∨
    ∃ earlier, registry.Extends earlier ∧ condition earlier ∧
      definition.isPositive document earlier = false

namespace JudgedWhen

variable {document : Document} {registry : Registry} {definition : Definition}
  {condition : Registry → Prop}

theorem later (judged : document.JudgedWhen registry definition condition) {grown : Registry}
    (more : grown.Extends registry) : document.JudgedWhen grown definition condition := by
  rcases judged with registered | ⟨earlier, before, held, negative⟩
  · exact Or.inl (more.entries _ registered)
  · exact Or.inr ⟨earlier, more.trans before, held, negative⟩

theorem weaken {weaker : Registry → Prop}
    (judged : document.JudgedWhen registry definition condition)
    (implied : ∀ earlier, condition earlier → weaker earlier) :
    document.JudgedWhen registry definition weaker := by
  rcases judged with registered | ⟨earlier, before, held, negative⟩
  · exact Or.inl registered
  · exact Or.inr ⟨earlier, before, implied earlier held, negative⟩

end JudgedWhen

/-- A definition that was judged once, and again whenever an entry that it waits for was there, is
not overlooked. -/
theorem contains_target_of_judged {document : Document} {registry : Registry}
    {definition : Definition} (once : document.JudgedWhen registry definition fun _ => True)
    (again : ∀ entry ∈ definition.dependencies document registry,
      registry.contains entry = true →
        document.JudgedWhen registry definition (·.contains entry = true))
    (positive : definition.isPositive document registry = true) :
    registry.contains definition.target = true := by
  rcases definition.restsOn_isPositive document registry positive with
    always | ⟨entry, waited, known, found⟩
  · rcases once with registered | ⟨earlier, before, _, negative⟩
    · exact registered
    · simp [always earlier before] at negative
  · rcases again entry waited known with registered | ⟨earlier, before, old, negative⟩
    · exact registered
    · simp [found earlier before old] at negative

end Document

namespace Worklist

variable {document : Document} {definitions : List Definition} {start base : Registry}

theorem tryRegister_cases (document : Document) (work : Worklist) (definition : Definition) :
    (tryRegister document work definition = work ∧
        (definition.isPositive document work.registry = true →
          work.registry.contains definition.target = true)) ∨
      (definition.isPositive document work.registry = true ∧
        work.registry.contains definition.target = false ∧
        tryRegister document work definition =
          { work with
            registry := work.registry.register definition.target
            queue := work.queue ++ [definition.target] }) := by
  unfold tryRegister
  cases definition.isPositive document work.registry <;>
    cases work.registry.contains definition.target <;> simp

theorem retry_eq (document : Document) (work : Worklist) (definition : Definition) :
    ∃ retries, retry document work definition =
      { tryRegister document work definition with retries } := by
  unfold retry tryRegister
  cases known : work.registry.contains definition.target
  · refine ⟨work.retries + 1, ?_⟩
    cases definition.isPositive document work.registry <;> simp
  · exact ⟨work.retries, by simp⟩

theorem waiting_tryRegister (document : Document) (work : Worklist) (definition : Definition) :
    (tryRegister document work definition).waiting = work.waiting := by
  rcases tryRegister_cases document work definition with ⟨same, _⟩ | ⟨_, _, more⟩
  · rw [same]
  · rw [more]

theorem reaches_tryRegister (work : Worklist) {definition : Definition}
    (recorded : definition ∈ definitions) :
    document.Reaches definitions work.registry
      (tryRegister document work definition).registry := by
  rcases tryRegister_cases document work definition with ⟨same, _⟩ | ⟨positive, new, more⟩
  · rw [same]
    exact Relation.ReflTransGen.refl
  · rw [more]
    exact Relation.ReflTransGen.single (.register recorded positive new)

theorem extends_tryRegister (document : Document) (work : Worklist) (definition : Definition) :
    (tryRegister document work definition).registry.Extends work.registry :=
  (reaches_tryRegister work (List.mem_singleton_self definition)).extends

theorem judgedWhen_tryRegister (document : Document) (work : Worklist) (definition : Definition)
    {condition : Registry → Prop} (held : condition work.registry) :
    document.JudgedWhen (tryRegister document work definition).registry definition condition := by
  rcases tryRegister_cases document work definition with ⟨same, registered⟩ | ⟨_, _, more⟩
  · rw [same]
    cases positive : definition.isPositive document work.registry with
    | true => exact Or.inl (registered positive)
    | false => exact Or.inr ⟨work.registry, Registry.Extends.refl _, held, positive⟩
  · rw [more]
    exact Or.inl ((Registry.contains_register _ _ _).mpr (Or.inr rfl))

def QueueRegistered (work : Worklist) : Prop :=
  ∀ entry ∈ work.queue, work.registry.contains entry = true

/-- A definition will be or was judged with the entry registered. -/
def Tracks (document : Document) (work : Worklist) (definition : Definition) (entry : Entry) :
    Prop :=
  document.JudgedWhen work.registry definition (·.contains entry = true) ∨
    (entry, definition) ∈ work.waiting ∧
      (work.registry.contains entry = true → entry ∈ work.queue)

theorem QueueRegistered.tryRegister {work : Worklist} (queued : work.QueueRegistered)
    (definition : Definition) : (tryRegister document work definition).QueueRegistered := by
  rcases tryRegister_cases document work definition with ⟨same, _⟩ | ⟨_, _, more⟩
  · rwa [same]
  · rw [more]
    intro entry membership
    rw [Registry.contains_register]
    rcases List.mem_append.mp membership with old | new
    · exact Or.inl (queued entry old)
    · exact Or.inr (List.mem_singleton.mp new)

theorem Tracks.tryRegister {work : Worklist} {waiter : Definition} {entry : Entry}
    (tracked : Tracks document work waiter entry) (definition : Definition) :
    Tracks document (tryRegister document work definition) waiter entry := by
  rcases tracked with judged | ⟨waits, queued⟩
  · exact Or.inl (judged.later (extends_tryRegister document work definition))
  · refine Or.inr ⟨by rwa [waiting_tryRegister], ?_⟩
    rcases tryRegister_cases document work definition with ⟨same, _⟩ | ⟨_, _, more⟩
    · rwa [same]
    · rw [more]
      intro known
      rw [Registry.contains_register] at known
      rw [List.mem_append, List.mem_singleton]
      exact known.imp_left queued

/-- The first pass, after the definitions in `done` were judged. -/
structure Underway (document : Document) (definitions : List Definition) (start : Registry)
    (done : List Definition) (work : Worklist) : Prop where
  reached : document.Reaches definitions start work.registry
  waiting : work.waiting = document.waits start definitions
  queued : work.QueueRegistered
  arrivals : ∀ entry, work.registry.contains entry = true →
    start.contains entry = true ∨ entry ∈ work.queue
  judged : ∀ definition ∈ done,
    document.JudgedWhen work.registry definition (·.Extends start)

/-- What holds while the queue is worked off, ever since the registry was `base`: every definition
was judged, and for each entry it waits for it was or will be judged with that entry registered. The
pending waits belong to entries that are taken off the queue already. -/
structure Covers (document : Document) (definitions : List Definition) (base : Registry)
    (pending : List (Entry × Definition)) (work : Worklist) : Prop where
  reached : document.Reaches definitions base work.registry
  queued : work.QueueRegistered
  waiters : ∀ wait ∈ work.waiting, wait.2 ∈ definitions
  judged : ∀ definition ∈ definitions,
    document.JudgedWhen work.registry definition fun _ => True
  due : ∀ wait ∈ pending, work.registry.contains wait.1 = true
  tracked : ∀ definition ∈ definitions, ∀ entry ∈ definition.dependencies document base,
    (entry, definition) ∈ pending ∨ Tracks document work definition entry

theorem Underway.tryRegister {done : List Definition} {work : Worklist} {definition : Definition}
    (underway : Underway document definitions start done work)
    (recorded : definition ∈ definitions) :
    Underway document definitions start (done ++ [definition])
      (tryRegister document work definition) where
  reached := underway.reached.trans (reaches_tryRegister work recorded)
  waiting := by rw [waiting_tryRegister, underway.waiting]
  queued := underway.queued.tryRegister definition
  arrivals := by
    rcases tryRegister_cases document work definition with ⟨same, _⟩ | ⟨_, _, more⟩
    · rw [same]
      exact underway.arrivals
    · rw [more]
      intro entry known
      rw [Registry.contains_register] at known
      rw [List.mem_append, List.mem_singleton, ← or_assoc]
      exact known.imp_left (underway.arrivals entry)
  judged := by
    intro other membership
    rcases List.mem_append.mp membership with old | new
    · exact (underway.judged other old).later (extends_tryRegister document work definition)
    · rw [List.mem_singleton.mp new]
      exact judgedWhen_tryRegister document work definition underway.reached.extends

theorem Underway.foldl {done : List Definition} {work : Worklist}
    (underway : Underway document definitions start done work) {ahead : List Definition}
    (included : ahead ⊆ definitions) :
    Underway document definitions start (done ++ ahead)
      (ahead.foldl (Worklist.tryRegister document) work) := by
  induction ahead generalizing done work with
  | nil => simpa using underway
  | cons definition rest inductionHypothesis =>
    have recorded := included List.mem_cons_self
    have later := inductionHypothesis (underway.tryRegister recorded)
      (fun _ membership => included (List.mem_cons_of_mem definition membership))
    simpa using later

theorem underway_firstPass (document : Document) (start : Registry)
    (definitions : List Definition) :
    Underway document definitions start definitions (document.firstPass start definitions) := by
  have begun : Underway document definitions start []
      { registry := start, queue := [], waiting := document.waits start definitions,
        retries := 0 } :=
    { reached := Relation.ReflTransGen.refl
      waiting := rfl
      queued := by simp [QueueRegistered]
      arrivals := fun _ => Or.inl
      judged := by simp }
  simpa [Document.firstPass] using begun.foldl (List.Subset.refl definitions)

theorem mem_waits {document : Document} {registry : Registry} {definitions : List Definition}
    {wait : Entry × Definition} :
    wait ∈ document.waits registry definitions ↔
      wait.2 ∈ definitions ∧ wait.1 ∈ wait.2.dependencies document registry := by
  obtain ⟨entry, definition⟩ := wait
  simp only [Document.waits, List.mem_flatMap, List.mem_map, Prod.mk.injEq]
  constructor
  · rintro ⟨_, recorded, _, waited, rfl, rfl⟩
    exact ⟨recorded, waited⟩
  · rintro ⟨recorded, waited⟩
    exact ⟨definition, recorded, entry, waited, rfl, rfl⟩

theorem covers_firstPass (document : Document) (start : Registry)
    (definitions : List Definition) :
    Covers document definitions (document.firstPass start definitions).registry []
      (document.firstPass start definitions) := by
  have underway := underway_firstPass document start definitions
  refine
    { reached := Relation.ReflTransGen.refl
      queued := underway.queued
      waiters := fun wait membership => (mem_waits.mp (underway.waiting ▸ membership)).1
      judged := fun definition recorded =>
        (underway.judged definition recorded).weaken fun _ _ => trivial
      due := by simp
      tracked := fun definition recorded entry waited => Or.inr ?_ }
  rw [definition.dependencies_congr document underway.reached.extends.instances] at waited
  by_cases old : start.contains entry = true
  · exact Or.inl ((underway.judged definition recorded).weaken
      fun earlier grown => grown.entries entry old)
  · refine Or.inr ⟨underway.waiting ▸ mem_waits.mpr ⟨recorded, waited⟩, fun known => ?_⟩
    exact (underway.arrivals entry known).resolve_left old

theorem Covers.retry {pending : List (Entry × Definition)} {wait : Entry × Definition}
    {work : Worklist} (covers : Covers document definitions base (wait :: pending) work)
    (recorded : wait.2 ∈ definitions) :
    Covers document definitions base pending (retry document work wait.2) := by
  obtain ⟨retries, same⟩ := retry_eq document work wait.2
  have grown := extends_tryRegister document work wait.2
  rw [same]
  exact
    { reached := covers.reached.trans (reaches_tryRegister work recorded)
      queued := covers.queued.tryRegister wait.2
      waiters := by
        rw [waiting_tryRegister]
        exact covers.waiters
      judged := fun other known => (covers.judged other known).later grown
      due := fun other membership =>
        grown.entries _ (covers.due other (List.mem_cons_of_mem wait membership))
      tracked := by
        intro other known entry waited
        rcases covers.tracked other known entry waited with owed | tracked
        · rcases List.mem_cons.mp owed with rfl | later
          · exact Or.inr (Or.inl (judgedWhen_tryRegister document work other
              (covers.due (entry, other) List.mem_cons_self)))
          · exact Or.inl later
        · exact Or.inr (tracked.tryRegister wait.2) }

theorem Covers.foldl_retry {pending : List (Entry × Definition)} {work : Worklist}
    (covers : Covers document definitions base pending work)
    (recorded : ∀ wait ∈ pending, wait.2 ∈ definitions) :
    Covers document definitions base []
      ((pending.map (·.2)).foldl (Worklist.retry document) work) := by
  induction pending generalizing work with
  | nil => exact covers
  | cons wait rest inductionHypothesis =>
    exact inductionHypothesis (covers.retry (recorded wait List.mem_cons_self))
      fun other membership => recorded other (List.mem_cons_of_mem wait membership)

/-- Taking an entry off the queue makes the definitions that wait for it pending, and judging them
again settles these waits. -/
theorem Covers.advance {work : Worklist} (covers : Covers document definitions base [] work)
    {entry : Entry} {rest : List Entry} (front : work.queue = entry :: rest) :
    Covers document definitions base [] (advance document work entry rest) := by
  have registered : work.registry.contains entry = true :=
    covers.queued entry (front ▸ List.mem_cons_self)
  have taken : Covers document definitions base
      (work.waiting.filter fun wait => wait.1 = entry)
      { work with
        queue := rest
        waiting := work.waiting.filter fun wait => wait.1 ≠ entry } :=
    { reached := covers.reached
      queued := fun other membership =>
        covers.queued other (front ▸ List.mem_cons_of_mem entry membership)
      waiters := fun wait membership => covers.waiters wait (List.mem_filter.mp membership).1
      judged := covers.judged
      due := by
        intro wait membership
        have same : wait.1 = entry := by simpa using (List.mem_filter.mp membership).2
        rwa [same]
      tracked := by
        intro definition recorded other waited
        rcases (covers.tracked definition recorded other waited).resolve_left
          (List.not_mem_nil) with judged | ⟨waits, queued⟩
        · exact Or.inr (Or.inl judged)
        · by_cases same : other = entry
          · exact Or.inl (List.mem_filter.mpr ⟨waits, by simpa using same⟩)
          · refine Or.inr (Or.inr ⟨List.mem_filter.mpr ⟨waits, by simpa using same⟩, ?_⟩)
            intro known
            have position := queued known
            rw [front] at position
            exact (List.mem_cons.mp position).resolve_left same }
  exact taken.foldl_retry
    fun wait membership => covers.waiters wait (List.mem_filter.mp membership).1

theorem Covers.settle {work : Worklist} (covers : Covers document definitions base [] work) :
    Covers document definitions base [] (settle document work) ∧
      (Worklist.settle document work).queue = [] := by
  fun_induction Worklist.settle document work with
  | case1 work empty => exact ⟨covers, empty⟩
  | case2 work entry rest front inductionHypothesis =>
    exact inductionHypothesis (covers.advance front)

theorem Covers.settled {work : Worklist} (covers : Covers document definitions base [] work)
    (empty : work.queue = []) : document.Settled definitions work.registry := by
  intro definition recorded positive
  refine Document.contains_target_of_judged (covers.judged definition recorded) ?_ positive
  intro entry waited known
  rw [definition.dependencies_congr document covers.reached.extends.instances] at waited
  rcases (covers.tracked definition recorded entry waited).resolve_left List.not_mem_nil with
    judged | ⟨_, queued⟩
  · exact judged
  · exact absurd (queued known) (by simp [empty])

end Worklist

namespace Document

theorem reaches_settledWork (document : Document) (start : Registry)
    (definitions : List Definition) :
    document.Reaches definitions start (document.settledWork start definitions).registry :=
  (Worklist.underway_firstPass document start definitions).reached.trans
    (Worklist.covers_firstPass document start definitions).settle.1.reached

theorem settled_settledWork (document : Document) (start : Registry)
    (definitions : List Definition) :
    document.Settled definitions (document.settledWork start definitions).registry := by
  obtain ⟨covers, empty⟩ := (Worklist.covers_firstPass document start definitions).settle
  exact covers.settled empty

theorem gives_collectRegistry (document : Document) :
    document.collectRegistry.Gives
      (document.settledWork (document.instancesOf document.tree.walkOrder)
        (document.definitionsOf document.tree.walkOrder)).registry := by
  apply Cancellable.Gives.bind (Cancellable.gives_walk document.tree)
  apply Cancellable.Gives.bind (Cancellable.gives_walk document.tree)
  exact Cancellable.gives_pure _

theorem collectRegistry_lowered (document : Document) :
    document.collectRegistry.under .lowered =
      .ok (document.settledWork (document.instancesOf document.tree.walkOrder)
        (document.definitionsOf document.tree.walkOrder)).registry :=
  document.gives_collectRegistry.under

/-- **Completeness of the registry.** An undisturbed collection ends with a registry that has the
target of every definition it judges positive, wherever in the document the definition stands. -/
theorem collectRegistry_complete (document : Document) :
    ∃ registry, document.collectRegistry.under .lowered = .ok registry ∧
      ∀ position < document.tree.size, ∀ definition ∈ document.definitionsOfNode position,
        definition.isPositive document registry = true →
          registry.contains definition.target = true := by
  refine ⟨_, document.collectRegistry_lowered, ?_⟩
  intro position inside definition made
  refine document.settled_settledWork _ _ definition (List.mem_flatMap.mpr ⟨position, ?_, made⟩)
  rw [Tree.walkOrder_eq]
  exact List.mem_range.mpr inside

end Document

end PromiseDetection

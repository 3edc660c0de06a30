import Mathlib.Data.List.FinRange
import Mathlib.Data.List.Perm.Subperm
import PromiseDetection.Proofs.Registry.Completeness

/-!
How much work the worklist does.

A log beside the worklist tells which definitions were judged and which entries were put on the
queue. An entry is put there when it is registered, and so never again. A definition that waits for
an entry is taken out of the waiting ones when that entry comes off the queue. So there are at most
as many turns as definitions, and a definition is judged once and then at most once for every entry
it waits for, also where definitions wait for each other.
-/

namespace PromiseDetection

/-- A worklist with a log of its work. Definitions have numbers here, because equal definitions may
be recorded at several places. The log has a number for each judgement and an entry for each time
that an entry was put on the queue, first ones first. -/
structure LoggedWork (definitions : List Definition) where
  work : Worklist
  waiting : List (Entry × Fin definitions.length)
  judged : List (Fin definitions.length)
  pushed : List Entry

namespace LoggedWork

variable {document : Document} {definitions : List Definition}

/-- Judges a definition for the first time. What is on the queue afterwards and was not there before
has been pushed. -/
def judge (document : Document) (log : LoggedWork definitions)
    (number : Fin definitions.length) : LoggedWork definitions :=
  let work := Worklist.tryRegister document log.work (definitions.get number)
  { log with
    work
    judged := log.judged ++ [number]
    pushed := log.pushed ++ work.queue.drop log.work.queue.length }

def judgeAgain (document : Document) (log : LoggedWork definitions)
    (number : Fin definitions.length) : LoggedWork definitions :=
  let work := Worklist.retry document log.work (definitions.get number)
  { log with
    work
    judged := if log.work.retries < work.retries then log.judged ++ [number] else log.judged
    pushed := log.pushed ++ work.queue.drop log.work.queue.length }

def dependents (log : LoggedWork definitions) (entry : Entry) : List (Fin definitions.length) :=
  (log.waiting.filter fun wait => wait.1 = entry).map (·.2)

def take (log : LoggedWork definitions) (entry : Entry) (rest : List Entry) :
    LoggedWork definitions :=
  { log with
    work :=
      { log.work with
        queue := rest
        waiting := log.work.waiting.filter fun wait => wait.1 ≠ entry }
    waiting := log.waiting.filter fun wait => wait.1 ≠ entry }

def turn (document : Document) (log : LoggedWork definitions) (entry : Entry)
    (rest : List Entry) : LoggedWork definitions :=
  (log.dependents entry).foldl (judgeAgain document) (log.take entry rest)

def unworked (document : Document) (registry : Registry) (definitions : List Definition) :
    LoggedWork definitions where
  work :=
    { registry, queue := [], waiting := document.waits registry definitions, retries := 0 }
  waiting := (List.finRange definitions.length).flatMap fun number =>
    ((definitions.get number).dependencies document registry).map fun entry => (entry, number)
  judged := []
  pushed := []

def afterFirstPass (document : Document) (registry : Registry) (definitions : List Definition) :
    LoggedWork definitions :=
  (List.finRange definitions.length).foldl (judge document)
    (unworked document registry definitions)

/-- A log that the loop comes to after some turns, while there are entries on the queue. -/
inductive After (document : Document) (registry : Registry) (definitions : List Definition) :
    Nat → LoggedWork definitions → Prop where
  | begun : After document registry definitions 0 (afterFirstPass document registry definitions)
  | turn {turns : Nat} {log : LoggedWork definitions} {entry : Entry} {rest : List Entry}
      (came : After document registry definitions turns log)
      (front : log.work.queue = entry :: rest) :
      After document registry definitions (turns + 1) (log.turn document entry rest)

/-- The entries that were pushed are those that were registered since the start, in this order and
each of them once. Those of the first turns are off the queue again. -/
structure Booked (start : Registry) (definitions : List Definition) (turns : Nat) (work : Worklist)
    (pushed : List Entry) : Prop where
  entries : work.registry.entries = start.entries ++ pushed
  queue : pushed.drop turns = work.queue
  within : turns ≤ pushed.length
  distinct : pushed.Nodup
  targets : pushed ⊆ definitions.map Definition.target

variable {start : Registry} {turns : Nat} {work : Worklist} {pushed : List Entry}

theorem Booked.tryRegister (booked : Booked start definitions turns work pushed)
    {definition : Definition} (recorded : definition ∈ definitions) :
    Booked start definitions turns (Worklist.tryRegister document work definition)
      (pushed ++ (Worklist.tryRegister document work definition).queue.drop
        work.queue.length) := by
  rcases Worklist.tryRegister_cases document work definition with ⟨same, _⟩ | ⟨_, new, more⟩
  · rw [same, List.drop_length, List.append_nil]
    exact booked
  · rw [more, List.drop_left]
    have entries : (work.registry.register definition.target).entries =
        work.registry.entries ++ [definition.target] := by
      simp [Registry.register, new]
    have absent : definition.target ∉ pushed := by
      intro membership
      rw [Registry.contains, booked.entries] at new
      simp [membership] at new
    exact
      { entries := by rw [entries, booked.entries, List.append_assoc]
        queue := by rw [List.drop_append_of_le_length booked.within, booked.queue]
        within := Nat.le_trans booked.within (List.length_append ▸ Nat.le_add_right _ _)
        distinct := List.nodup_append.mpr ⟨booked.distinct, List.nodup_singleton _,
          fun entry membership other last same => absent <| by
            rwa [← List.mem_singleton.mp last, ← same]⟩
        targets := List.append_subset.mpr ⟨booked.targets, by
          simpa using List.mem_map_of_mem recorded⟩ }

theorem Booked.retry (booked : Booked start definitions turns work pushed)
    {definition : Definition} (recorded : definition ∈ definitions) :
    Booked start definitions turns (Worklist.retry document work definition)
      (pushed ++ (Worklist.retry document work definition).queue.drop work.queue.length) := by
  obtain ⟨retries, same⟩ := Worklist.retry_eq document work definition
  have judged : Booked start definitions turns (Worklist.tryRegister document work definition) _ :=
    booked.tryRegister recorded
  rw [same]
  exact ⟨judged.entries, judged.queue, judged.within, judged.distinct, judged.targets⟩

theorem Booked.take {log : LoggedWork definitions} {entry : Entry} {rest : List Entry}
    (booked : Booked start definitions turns log.work log.pushed)
    (front : log.work.queue = entry :: rest) :
    Booked start definitions (turns + 1) (log.take entry rest).work
      (log.take entry rest).pushed where
  entries := booked.entries
  queue := by
    have later := congrArg List.tail booked.queue
    rwa [List.tail_drop, front] at later
  within := by
    have left := congrArg List.length booked.queue
    rw [List.length_drop, front, List.length_cons] at left
    simp only [LoggedWork.take]
    omega
  distinct := booked.distinct
  targets := booked.targets

/-- There are no more turns than entries that were pushed, and no more of these than definitions. -/
theorem Booked.turns_le (booked : Booked start definitions turns work pushed) :
    turns ≤ definitions.length :=
  calc turns ≤ pushed.length := booked.within
    _ ≤ (definitions.map Definition.target).length :=
      (List.subperm_of_subset booked.distinct booked.targets).length_le
    _ = definitions.length := List.length_map _

/-- Every definition in `done` was judged once, and each further judgement of a definition is paid
for by an entry that it does not wait for any more. The pending definitions were taken out of the
waiting ones, and they are still to be judged. -/
structure Budgeted (document : Document) (start : Registry)
    (done pending : List (Fin definitions.length)) (log : LoggedWork definitions) : Prop where
  waiting : log.work.waiting = log.waiting.map fun wait => (wait.1, definitions.get wait.2)
  judged : log.judged.length = done.length + log.work.retries
  total : log.work.retries + pending.length + log.waiting.length ≤
    (document.waits start definitions).length
  each : ∀ number, log.judged.count number + pending.count number +
      (log.waiting.map (·.2)).count number ≤
    done.count number + ((definitions.get number).dependencies document start).length

theorem retries_tryRegister (document : Document) (work : Worklist) (definition : Definition) :
    (Worklist.tryRegister document work definition).retries = work.retries := by
  rcases Worklist.tryRegister_cases document work definition with ⟨same, _⟩ | ⟨_, _, more⟩
  · rw [same]
  · rw [more]

theorem judgeAgain_cases (document : Document) (log : LoggedWork definitions)
    (number : Fin definitions.length) :
    ((log.judgeAgain document number).work.retries = log.work.retries ∧
        (log.judgeAgain document number).judged = log.judged) ∨
      ((log.judgeAgain document number).work.retries = log.work.retries + 1 ∧
        (log.judgeAgain document number).judged = log.judged ++ [number]) := by
  unfold judgeAgain Worklist.retry
  split
  · exact .inl ⟨rfl, if_neg (Nat.lt_irrefl _)⟩
  · simp [retries_tryRegister]

@[simp] theorem waiting_judgeAgain (document : Document) (log : LoggedWork definitions)
    (number : Fin definitions.length) :
    (log.judgeAgain document number).waiting = log.waiting := rfl

variable {done pending : List (Fin definitions.length)} {log : LoggedWork definitions}
  {number : Fin definitions.length}

theorem Budgeted.judge (budgeted : Budgeted document start done pending log) :
    Budgeted document start (done ++ [number]) pending (log.judge document number) where
  waiting := by
    rw [LoggedWork.judge, Worklist.waiting_tryRegister]
    exact budgeted.waiting
  judged := by
    simp only [LoggedWork.judge, retries_tryRegister, List.length_append, budgeted.judged]
    omega
  total := by
    rw [LoggedWork.judge, retries_tryRegister]
    exact budgeted.total
  each other := by
    have bound := budgeted.each other
    simp only [LoggedWork.judge, List.count_append]
    omega

theorem Budgeted.judgeAgain (budgeted : Budgeted document start done (number :: pending) log) :
    Budgeted document start done pending (log.judgeAgain document number) := by
  have total := budgeted.total
  have each (other : Fin definitions.length) := budgeted.each other
  simp only [List.length_cons, List.count_cons] at total each
  have waiting :=
    (Worklist.waiting_retry document log.work (definitions.get number)).trans budgeted.waiting
  rcases judgeAgain_cases document log number with ⟨retries, judged⟩ | ⟨retries, judged⟩
  · refine ⟨waiting, ?_, ?_, fun other => ?_⟩
    · rw [retries, judged, budgeted.judged]
    · rw [retries, waiting_judgeAgain]
      omega
    · have bound := each other
      rw [judged, waiting_judgeAgain]
      omega
  · refine ⟨waiting, ?_, ?_, fun other => ?_⟩
    · rw [retries, judged, List.length_append, budgeted.judged, List.length_singleton,
        Nat.add_assoc]
    · rw [retries, waiting_judgeAgain]
      omega
    · have bound := each other
      rw [judged, waiting_judgeAgain, List.count_append, List.count_singleton]
      omega

/-- What waited for an entry is pending once the entry is taken off the queue. -/
theorem Budgeted.take (budgeted : Budgeted document start done [] log) (entry : Entry)
    (rest : List Entry) :
    Budgeted document start done (log.dependents entry) (log.take entry rest) := by
  have split : (log.dependents entry ++ (log.take entry rest).waiting.map (·.2)).Perm
      (log.waiting.map (·.2)) := by
    have parts := (List.filter_append_perm (fun wait => decide (wait.1 = entry)) log.waiting).map
      (·.2)
    simpa [dependents, LoggedWork.take] using parts
  constructor
  · simp only [LoggedWork.take, budgeted.waiting, List.filter_map, Function.comp_def]
  · exact budgeted.judged
  · have sizes := split.length_eq
    have total := budgeted.total
    simp only [List.length_append, List.length_map, List.length_nil] at sizes total
    simp only [LoggedWork.take] at sizes ⊢
    omega
  · intro number
    have counts := split.count_eq number
    have bound := budgeted.each number
    simp only [List.count_append, List.count_nil] at counts bound
    simp only [LoggedWork.take] at counts ⊢
    omega

structure Sound (document : Document) (start : Registry) (turns : Nat)
    (done pending : List (Fin definitions.length)) (log : LoggedWork definitions) : Prop where
  booked : Booked start definitions turns log.work log.pushed
  budgeted : Budgeted document start done pending log

/-- Where each number stands for so many waiting definitions, there are no more than these of it. -/
theorem count_flatMap_replicate_le {numbers : List (Fin definitions.length)}
    (distinct : numbers.Nodup) (size : Fin definitions.length → Nat) :
    (numbers.flatMap fun number => List.replicate (size number) number).count number ≤
      size number := by
  induction numbers with
  | nil => simp
  | cons first rest inductionHypothesis =>
    obtain ⟨absent, distinct⟩ := List.nodup_cons.mp distinct
    rw [List.flatMap_cons, List.count_append, List.count_replicate]
    by_cases same : first = number
    · have elsewhere : number ∉ rest.flatMap fun number => List.replicate (size number) number := by
        simp only [List.mem_flatMap, List.mem_replicate, not_exists, not_and]
        rintro other membership - rfl
        exact absent (same ▸ membership)
      simp [same, List.count_eq_zero.mpr elsewhere]
    · simpa [same] using inductionHypothesis distinct

theorem sound_unworked (document : Document) (start : Registry) (definitions : List Definition) :
    Sound document start 0 [] [] (unworked document start definitions) := by
  have same : document.waits start definitions =
      (unworked document start definitions).waiting.map
        fun wait => (wait.1, definitions.get wait.2) :=
    calc document.waits start definitions
        = document.waits start ((List.finRange definitions.length).map definitions.get) := by
          rw [List.map_get_finRange]
      _ = _ := by
          simp only [Document.waits, unworked, List.flatMap_map, List.map_flatMap, List.map_map]
          rfl
  refine ⟨⟨by simp [unworked], rfl, Nat.le_refl _, List.nodup_nil, by simp [unworked]⟩, ?_⟩
  refine ⟨same, rfl, ?_, fun number => ?_⟩
  · rw [same, List.length_map]
    simp [unworked]
  · have bound : List.count number _ ≤
        ((definitions.get number).dependencies document start).length :=
      count_flatMap_replicate_le (List.nodup_finRange definitions.length)
        fun number => ((definitions.get number).dependencies document start).length
    simpa [unworked, List.map_flatMap, Function.comp_def, List.map_const'] using bound

theorem Sound.foldl_judge (sound : Sound document start turns done pending log)
    (ahead : List (Fin definitions.length)) :
    Sound document start turns (done ++ ahead) pending
      (ahead.foldl (LoggedWork.judge document) log) := by
  induction ahead generalizing done log with
  | nil => simpa using sound
  | cons number rest inductionHypothesis =>
    have judged : Sound document start turns (done ++ [number]) pending
        (log.judge document number) :=
      ⟨sound.booked.tryRegister (definitions.get_mem number), sound.budgeted.judge⟩
    simpa using inductionHypothesis judged

theorem Sound.foldl_judgeAgain (sound : Sound document start turns done pending log) :
    Sound document start turns done [] (pending.foldl (LoggedWork.judgeAgain document) log) := by
  induction pending generalizing log with
  | nil => exact sound
  | cons number rest inductionHypothesis =>
    exact inductionHypothesis
      ⟨sound.booked.retry (definitions.get_mem number), sound.budgeted.judgeAgain⟩

theorem Sound.turn (sound : Sound document start turns done [] log) {entry : Entry}
    {rest : List Entry} (front : log.work.queue = entry :: rest) :
    Sound document start (turns + 1) done [] (log.turn document entry rest) :=
  Sound.foldl_judgeAgain ⟨sound.booked.take front, sound.budgeted.take entry rest⟩

theorem After.sound (came : After document start definitions turns log) :
    Sound document start turns (List.finRange definitions.length) [] log := by
  induction came with
  | begun => exact (sound_unworked document start definitions).foldl_judge _
  | turn _ front inductionHypothesis => exact inductionHypothesis.turn front

theorem work_foldl_judge (ahead : List (Fin definitions.length)) (log : LoggedWork definitions) :
    (ahead.foldl (judge document) log).work =
      (ahead.map definitions.get).foldl (Worklist.tryRegister document) log.work := by
  induction ahead generalizing log with
  | nil => rfl
  | cons number rest inductionHypothesis => exact inductionHypothesis (log.judge document number)

theorem work_foldl_judgeAgain (ahead : List (Fin definitions.length))
    (log : LoggedWork definitions) :
    (ahead.foldl (judgeAgain document) log).work =
      (ahead.map definitions.get).foldl (Worklist.retry document) log.work := by
  induction ahead generalizing log with
  | nil => rfl
  | cons number rest inductionHypothesis =>
    exact inductionHypothesis (log.judgeAgain document number)

theorem work_afterFirstPass (document : Document) (start : Registry)
    (definitions : List Definition) :
    (afterFirstPass document start definitions).work = document.firstPass start definitions := by
  rw [afterFirstPass, work_foldl_judge, List.map_get_finRange]
  rfl

theorem Budgeted.work_turn (budgeted : Budgeted document start done [] log) (entry : Entry)
    (rest : List Entry) :
    (log.turn document entry rest).work = Worklist.advance document log.work entry rest := by
  have dependents : (log.dependents entry).map definitions.get = log.work.dependents entry := by
    simp [LoggedWork.dependents, Worklist.dependents, budgeted.waiting, List.filter_map,
      Function.comp_def]
  rw [LoggedWork.turn, work_foldl_judgeAgain, dependents]
  rfl

theorem After.exists_last (came : After document start definitions turns log) :
    ∃ turns last, After document start definitions turns last ∧
      last.work = log.work.settle document ∧ last.work.queue = [] := by
  generalize same : log.work = work
  fun_induction Worklist.settle document work generalizing turns log with
  | case1 work empty => exact ⟨turns, log, came, same, same ▸ empty⟩
  | case2 work entry rest front inductionHypothesis =>
    rw [← same] at front
    exact inductionHypothesis (came.turn front) (same ▸ came.sound.budgeted.work_turn entry rest)

/-- **The worklist is linear.** However definitions refer to each other, the loop takes at most as
many turns as there are definitions, and then the worklist is settled. At any time no entry was put
on the queue twice, and every entry that was put there is registered. A definition was judged once
and at most once more for every entry it waits for, so the judgements after the first ones are at
most as many as these entries are in all. -/
theorem worklist_linear (document : Document) (start : Registry)
    (definitions : List Definition) :
    (∀ turns log, After document start definitions turns log →
      turns ≤ definitions.length ∧
        log.pushed.Nodup ∧ (∀ entry ∈ log.pushed, log.work.registry.contains entry = true) ∧
        log.judged.length = definitions.length + log.work.retries ∧
        log.work.retries ≤ (document.waits start definitions).length ∧
        ∀ number, log.judged.count number ≤
          1 + ((definitions.get number).dependencies document start).length) ∧
      ∃ turns last, After document start definitions turns last ∧
        last.work = document.settledWork start definitions ∧ last.work.queue = [] := by
  constructor
  · intro turns log came
    obtain ⟨booked, budgeted⟩ := came.sound
    refine ⟨booked.turns_le, booked.distinct, fun entry membership => ?_, ?_, ?_, fun number => ?_⟩
    · simp [Registry.contains, booked.entries, membership]
    · rw [budgeted.judged, List.length_finRange]
    · have total := budgeted.total
      omega
    · have once := List.nodup_iff_count_le_one.mp (List.nodup_finRange definitions.length) number
      have bound := budgeted.each number
      omega
  · have first : After document start definitions 0 (afterFirstPass document start definitions) :=
      .begun
    obtain ⟨turns, last, came, settled, empty⟩ := first.exists_last
    rw [work_afterFirstPass] at settled
    exact ⟨turns, last, came, settled, empty⟩

end LoggedWork

end PromiseDetection

import Mathlib.Data.List.Induction
import PromiseDetection.Proofs.Disk.PathOrder
import PromiseDetection.Watch.ChangeSet

/-!
The latest event about a path decides.

A watch observes events and now and then hands out the batch it has. Handing it out cuts the events
into stretches, and each batch is made of the events of one stretch alone. Inside of a stretch a
path that counts is among the changed files if the last event that says something about it is a
creation or a modification, among the removed ones if it is a removal, and otherwise in neither.
-/

namespace PromiseDetection

inductive Standing where
  | changed
  | removed
  deriving DecidableEq

namespace EventKind

/-- What becomes of a file by an event of this kind, if anything. -/
def standing? : EventKind → Option Standing
  | .created | .modified => some .changed
  | .removed => some .removed
  | .other => none

theorem standing?_eq_changed_iff {kind : EventKind} :
    kind.standing? = some .changed ↔ kind = .created ∨ kind = .modified := by
  cases kind <;> simp [standing?]

theorem standing?_eq_removed_iff {kind : EventKind} :
    kind.standing? = some .removed ↔ kind = .removed := by
  cases kind <;> simp [standing?]

theorem ne_other_of_standing? {kind : EventKind} {standing : Standing}
    (known : kind.standing? = some standing) : kind ≠ .other := by
  rintro rfl
  simp [standing?] at known

end EventKind

def Event.Concerns (event : Event) (path : Path) : Prop :=
  event.kind ≠ .other ∧ path.IsIn event.paths

def LatestKind (events : List Event) (path : Path) (kind : EventKind) : Prop :=
  ∃ earlier event later, events = earlier ++ event :: later ∧ event.Concerns path ∧
    event.kind = kind ∧ ∀ other ∈ later, ¬ other.Concerns path

section

variable {events : List Event} {event : Event} {path : Path} {kind known : EventKind}

theorem not_latestKind_nil : ¬ LatestKind [] path kind := by
  rintro ⟨earlier, event, later, empty, _⟩
  simp at empty

theorem latestKind_concat :
    LatestKind (events ++ [event]) path kind ↔
      event.Concerns path ∧ event.kind = kind ∨
        ¬ event.Concerns path ∧ LatestKind events path kind := by
  constructor
  · rintro ⟨earlier, latest, later, split, concerns, same, silent⟩
    rcases List.eq_nil_or_concat later with rfl | ⟨later, last, rfl⟩
    · obtain ⟨rfl, rfl⟩ : events = earlier ∧ event = latest := by simpa using split
      exact Or.inl ⟨concerns, same⟩
    · rw [List.concat_eq_append, ← List.cons_append, ← List.append_assoc] at split
      obtain ⟨rfl, same'⟩ := List.append_inj' split rfl
      cases same'
      refine Or.inr ⟨silent _ (by simp), earlier, latest, later, rfl, concerns, same, ?_⟩
      exact fun other inside => silent other (by simp [inside])
  · rintro (⟨concerns, same⟩ | ⟨apart, earlier, latest, later, rfl, concerns, same, silent⟩)
    · exact ⟨events, event, [], rfl, concerns, same, by simp⟩
    · refine ⟨earlier, latest, later ++ [event], by simp, concerns, same, fun other inside => ?_⟩
      rcases List.mem_append.mp inside with before | last
      · exact silent other before
      · rwa [List.mem_singleton.mp last]

theorem LatestKind.unique (one : LatestKind events path kind)
    (two : LatestKind events path known) : kind = known := by
  induction events using List.reverseRecOn with
  | nil => exact absurd one not_latestKind_nil
  | append_singleton events event inductionHypothesis =>
    rcases latestKind_concat.mp one with ⟨concerns, rfl⟩ | ⟨apart, one⟩ <;>
      rcases latestKind_concat.mp two with ⟨concerns', rfl⟩ | ⟨apart', two⟩
    · rfl
    · exact absurd concerns apart'
    · exact absurd concerns' apart
    · exact inductionHypothesis one two

end

namespace Extensions

variable {extensions : List String} {path other : Path} {paths : List Path}

theorem admits_congr (alike : path.same other = true) :
    admits extensions path = admits extensions other := by
  simp only [admits, Path.extension?, Path.fileName?, Path.same_iff.mp alike]

theorem isIn_filter_admits :
    path.IsIn (paths.filter (admits extensions)) ↔
      admits extensions path = true ∧ path.IsIn paths := by
  constructor
  · rintro ⟨listed, inside, alike⟩
    obtain ⟨member, admitted⟩ := List.mem_filter.mp inside
    exact ⟨admits_congr alike ▸ admitted, listed, member, alike⟩
  · rintro ⟨admitted, listed, inside, alike⟩
    exact ⟨listed, List.mem_filter.mpr ⟨inside, admits_congr alike ▸ admitted⟩, alike⟩

end Extensions

namespace ChangeSet

variable {extensions : List String} {batch : ChangeSet} {event : Event} {events : List Event}
  {kind : EventKind} {standing : Standing} {path noted : Path} {paths : List Path}

def files (batch : ChangeSet) : Standing → List Path
  | .changed => batch.changed
  | .removed => batch.removed

/-- Each of the two lists is in the order of paths, so that it holds every path at most once. -/
def Ordered (batch : ChangeSet) : Prop := ∀ standing, Path.Ordered (batch.files standing)

def ofEvents (extensions : List String) (events : List Event) : ChangeSet :=
  events.foldl (observe extensions) .empty

theorem isIn_without :
    path.IsIn (without noted paths) ↔ path.same noted = false ∧ path.IsIn paths := by
  simp only [Path.IsIn, without, List.mem_filter, Bool.not_eq_true', Bool.eq_false_iff, ne_eq,
    Path.same_iff]
  constructor
  · rintro ⟨listed, ⟨inside, different⟩, alike⟩
    exact ⟨fun same => different (same.symm.trans alike), listed, inside, alike⟩
  · rintro ⟨different, listed, inside, alike⟩
    exact ⟨listed, ⟨inside, fun same => different (alike.trans same.symm)⟩, alike⟩

/-- What is noted about a path replaces what was known about it, and all other paths stay. -/
theorem isIn_files_note :
    path.IsIn ((note kind batch noted).files standing) ↔
      path.same noted = true ∧ kind.standing? = some standing ∨
        ¬ (kind ≠ .other ∧ path.same noted = true) ∧ path.IsIn (batch.files standing) := by
  cases kind <;> cases standing <;> cases alike : path.same noted <;>
    simp [note, files, EventKind.standing?, isIn_without, alike]

theorem isIn_files_foldl_note :
    path.IsIn ((paths.foldl (note kind) batch).files standing) ↔
      path.IsIn paths ∧ kind.standing? = some standing ∨
        ¬ (kind ≠ .other ∧ path.IsIn paths) ∧ path.IsIn (batch.files standing) := by
  induction paths generalizing batch with
  | nil => simp
  | cons noted rest inductionHypothesis =>
    rw [List.foldl_cons, inductionHypothesis, isIn_files_note, Path.isIn_cons]
    have decisive : kind.standing? = some standing → kind ≠ .other :=
      EventKind.ne_other_of_standing?
    tauto

theorem isIn_files_observe :
    path.IsIn ((batch.observe extensions event).files standing) ↔
      (Extensions.admits extensions path = true ∧ event.Concerns path) ∧
          event.kind.standing? = some standing ∨
        ¬ (Extensions.admits extensions path = true ∧ event.Concerns path) ∧
          path.IsIn (batch.files standing) := by
  have decisive : event.kind.standing? = some standing → event.kind ≠ .other :=
    EventKind.ne_other_of_standing?
  rw [observe, isIn_files_foldl_note, Extensions.isIn_filter_admits, Event.Concerns]
  tauto

/-- **The latest event wins.** The induction is on the events, the last one first. -/
theorem isIn_files_ofEvents :
    path.IsIn ((ofEvents extensions events).files standing) ↔
      Extensions.admits extensions path = true ∧
        ∃ kind, LatestKind events path kind ∧ kind.standing? = some standing := by
  induction events using List.reverseRecOn with
  | nil =>
    have nothing : ¬ path.IsIn ((ofEvents extensions []).files standing) := by
      cases standing <;> exact Path.not_isIn_nil path
    simp [nothing, not_latestKind_nil]
  | append_singleton events event inductionHypothesis =>
    rw [ofEvents, List.foldl_append, List.foldl_cons, List.foldl_nil, isIn_files_observe]
    rw [ofEvents] at inductionHypothesis
    rw [inductionHypothesis]
    simp only [latestKind_concat]
    by_cases admitted : Extensions.admits extensions path = true <;>
      by_cases concerns : event.Concerns path <;> simp [admitted, concerns]

theorem Ordered.note (ordered : batch.Ordered) (kind : EventKind) (noted : Path) :
    (note kind batch noted).Ordered := by
  intro standing
  have inserted := fun standing => (ordered standing).insertInto noted
  have dropped := fun standing => (ordered standing).filter fun other => !noted.same other
  cases kind <;> cases standing
  · exact inserted .changed
  · exact dropped .removed
  · exact inserted .changed
  · exact dropped .removed
  · exact dropped .changed
  · exact inserted .removed
  · exact ordered .changed
  · exact ordered .removed

theorem Ordered.observe (ordered : batch.Ordered) (event : Event) :
    (batch.observe extensions event).Ordered :=
  List.foldlRecOn _ _ ordered fun _ kept noted _ => kept.note event.kind noted

theorem ordered_ofEvents (extensions : List String) (events : List Event) :
    (ofEvents extensions events).Ordered := by
  refine List.foldlRecOn _ _ ?_ fun _ kept event _ => kept.observe event
  intro standing
  cases standing <;> exact List.Pairwise.nil

theorem observe_filter_paths (extensions : List String) (batch : ChangeSet) (event : Event) :
    batch.observe extensions
        { event with paths := event.paths.filter (Extensions.admits extensions) } =
      batch.observe extensions event := by
  simp [observe]

theorem observe_of_idle
    (idle : event.kind = .other ∨ ∀ path ∈ event.paths, Extensions.admits extensions path = false) :
    batch.observe extensions event = batch := by
  rw [observe]
  rcases idle with other | uncounted
  · rw [other]
    induction event.paths.filter (Extensions.admits extensions) with
    | nil => rfl
    | cons _ _ inductionHypothesis => exact inductionHypothesis
  · rw [List.filter_eq_nil_iff.mpr fun path inside => by simp [uncounted path inside]]
    rfl

end ChangeSet

inductive BatchStep where
  | observed (event : Event)
  | handedOut

namespace BatchStep

def event? : BatchStep → Option Event
  | .observed event => some event
  | .handedOut => none

end BatchStep

/-- The batch of a watch, and the batches that it handed out, the first one first. -/
structure Batches where
  batch : ChangeSet
  taken : List ChangeSet

namespace Batches

def next (extensions : List String) (batches : Batches) : BatchStep → Batches
  | .observed event => { batches with batch := batches.batch.observe extensions event }
  | .handedOut =>
    let (taken, fresh) := batches.batch.drain
    { batch := fresh, taken := batches.taken ++ [taken] }

def after (extensions : List String) (steps : List BatchStep) : Batches :=
  steps.foldl (next extensions) { batch := .empty, taken := [] }

end Batches

/-- Events cut into stretches: those after the last cut, and those before each cut. -/
structure Stretches where
  current : List Event
  past : List (List Event)

namespace Stretches

def next (stretches : Stretches) : BatchStep → Stretches
  | .observed event => { stretches with current := stretches.current ++ [event] }
  | .handedOut => { current := [], past := stretches.past ++ [stretches.current] }

def of (steps : List BatchStep) : Stretches :=
  steps.foldl next { current := [], past := [] }

theorem flatten_of (steps : List BatchStep) :
    (of steps).past.flatten ++ (of steps).current = steps.filterMap BatchStep.event? := by
  induction steps using List.reverseRecOn with
  | nil => rfl
  | append_singleton steps step inductionHypothesis =>
    rw [List.filterMap_append, ← inductionHypothesis, of, List.foldl_append]
    cases step <;> simp [of, next, BatchStep.event?]

end Stretches

namespace Batches

variable {extensions : List String} {steps : List BatchStep}

/-- Each batch is made of the events of its own stretch. -/
theorem after_eq (extensions : List String) (steps : List BatchStep) :
    after extensions steps =
      { batch := .ofEvents extensions (Stretches.of steps).current
        taken := (Stretches.of steps).past.map (.ofEvents extensions) } := by
  induction steps using List.reverseRecOn with
  | nil => rfl
  | append_singleton steps step inductionHypothesis =>
    rw [after] at inductionHypothesis
    rw [after, Stretches.of, List.foldl_append, List.foldl_append, inductionHypothesis]
    cases step <;>
      simp [next, Stretches.of, Stretches.next, ChangeSet.drain, ChangeSet.ofEvents]

/-- What the batches after some steps tell. -/
structure LatestWins (extensions : List String) (steps : List BatchStep) : Prop where
  changed_iff : ∀ path : Path, path.IsIn (after extensions steps).batch.changed ↔
    Extensions.admits extensions path = true ∧
      ∃ kind, LatestKind (Stretches.of steps).current path kind ∧
        (kind = .created ∨ kind = .modified)
  removed_iff : ∀ path : Path, path.IsIn (after extensions steps).batch.removed ↔
    Extensions.admits extensions path = true ∧
      LatestKind (Stretches.of steps).current path .removed
  apart : ∀ path : Path, ¬ (path.IsIn (after extensions steps).batch.changed ∧
    path.IsIn (after extensions steps).batch.removed)
  ordered : (after extensions steps).batch.Ordered
  /-- Events of another kind and events only about paths that do not count change nothing. -/
  idle : ∀ event : Event,
    (event.kind = .other ∨ ∀ path ∈ event.paths, Extensions.admits extensions path = false) →
      after extensions (steps ++ [.observed event]) = after extensions steps
  /-- In an event that is also about other paths, the paths that do not count may be left out. -/
  uncounted : ∀ event : Event, after extensions (steps ++ [.observed event]) =
    after extensions (steps ++
      [.observed { event with paths := event.paths.filter (Extensions.admits extensions) }])
  handedOut : after extensions (steps ++ [.handedOut]) =
    { batch := .empty
      taken := (after extensions steps).taken ++ [(after extensions steps).batch] }
  /-- Each batch that was handed out is made of the events of one stretch. -/
  taken_eq : (after extensions steps).taken =
    (Stretches.of steps).past.map (ChangeSet.ofEvents extensions)
  /-- Every event belongs to one stretch. -/
  every_event : (Stretches.of steps).past.flatten ++ (Stretches.of steps).current =
    steps.filterMap BatchStep.event?

/-- **Batches of changes.** After any steps, a path is among the changed files exactly if it counts
and the last event about it since a batch was handed out created or modified it, and among the
removed ones exactly if this event removed it, so in at most one of the two. Handing out gives the
batch as it is and leaves an empty one, and every event belongs to one batch. -/
theorem latest_wins (extensions : List String) (steps : List BatchStep) :
    LatestWins extensions steps := by
  have batch : (after extensions steps).batch =
      .ofEvents extensions (Stretches.of steps).current := by rw [after_eq]
  have changed (path : Path) : path.IsIn (after extensions steps).batch.changed ↔
      Extensions.admits extensions path = true ∧
        ∃ kind, LatestKind (Stretches.of steps).current path kind ∧
          (kind = .created ∨ kind = .modified) := by
    have decided : path.IsIn ((ChangeSet.ofEvents extensions (Stretches.of steps).current).files
        .changed) ↔ _ := ChangeSet.isIn_files_ofEvents
    simpa only [batch, ChangeSet.files, EventKind.standing?_eq_changed_iff] using decided
  have removed (path : Path) : path.IsIn (after extensions steps).batch.removed ↔
      Extensions.admits extensions path = true ∧
        LatestKind (Stretches.of steps).current path .removed := by
    have decided : path.IsIn ((ChangeSet.ofEvents extensions (Stretches.of steps).current).files
        .removed) ↔ _ := ChangeSet.isIn_files_ofEvents
    simpa only [batch, ChangeSet.files, EventKind.standing?_eq_removed_iff, exists_eq_right]
      using decided
  refine
    { changed_iff := changed
      removed_iff := removed
      apart := ?_
      ordered := batch ▸ ChangeSet.ordered_ofEvents extensions _
      idle := fun event idle => ?_
      uncounted := fun event => ?_
      handedOut := ?_
      taken_eq := by rw [after_eq]
      every_event := Stretches.flatten_of steps }
  · rintro path ⟨here, gone⟩
    obtain ⟨_, kind, latest, created⟩ := (changed path).mp here
    obtain rfl := latest.unique ((removed path).mp gone).2
    simp at created
  · simp [after, List.foldl_append, next, ChangeSet.observe_of_idle idle]
  · simp [after, List.foldl_append, next, ChangeSet.observe_filter_paths]
  · simp [after, List.foldl_append, next, ChangeSet.drain]

end Batches

end PromiseDetection

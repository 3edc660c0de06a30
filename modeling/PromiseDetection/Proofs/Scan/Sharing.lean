import Mathlib.Data.List.Perm.Subperm
import PromiseDetection.Proofs.Analysis.Polling
import PromiseDetection.Scan.Scan

/-!
Scans that are shared out to workers.

A worker tallies the files of its stretch one after the other and stops where it sees the flag
raised, so its result is the tally of a beginning of its stretch. The stretches put together are the
list of the files. So the whole scan is the tally of a part of the files, and of all of them unless
somebody saw the flag raised. How many workers there are, and how their polls are interleaved, only
decides which part that is.
-/

namespace PromiseDetection

theorem pairwise_sortReports (reports : List Report) :
    (sortReports reports).Pairwise fun first second => first.path ≤ second.path := by
  have sorted : (sortReports reports).Pairwise fun first second =>
      decide (first.path ≤ second.path) = true := by
    apply List.pairwise_mergeSort
    case trans =>
      intro one two three lower higher
      exact decide_eq_true (String.le_trans (of_decide_eq_true lower) (of_decide_eq_true higher))
    case total =>
      intro one two
      simpa using String.le_total one.path two.path
  exact sorted.imp of_decide_eq_true

section

variable {α : Type}

theorem flatten_stretches (more : Nat) (items : List α) : (stretches more items).flatten = items := by
  fun_induction stretches more items with
  | case1 => rfl
  | case2 item rest inductionHypothesis =>
    rw [List.flatten_cons, inductionHypothesis, List.cons_append, List.take_append_drop]

theorem ne_nil_of_mem_stretches {more : Nat} {items stretch : List α}
    (membership : stretch ∈ stretches more items) : stretch ≠ [] := by
  fun_induction stretches more items with
  | case1 => simp at membership
  | case2 item rest inductionHypothesis =>
    rcases List.mem_cons.mp membership with rfl | later
    · simp
    · exact inductionHypothesis later

theorem length_stretches_le {more count : Nat} {items : List α}
    (enough : items.length ≤ count * (more + 1)) : (stretches more items).length ≤ count := by
  fun_induction stretches more items generalizing count with
  | case1 => exact Nat.zero_le count
  | case2 item rest inductionHypothesis =>
    cases count with
    | zero => simp at enough
    | succ count =>
      rw [List.length_cons, Nat.add_le_add_iff_right]
      apply inductionHypothesis
      rw [List.length_cons, Nat.succ_mul] at enough
      rw [List.length_drop]
      omega

theorem length_shareOut_le {workers : Nat} (positive : 0 < workers) (items : List α) :
    (shareOut workers items).length ≤ workers := by
  apply length_stretches_le
  have full := Nat.lt_mul_div_succ (items.length - 1) positive
  omega

end

namespace FileAnalysis

def outcome (analysis : FileAnalysis) (path : Path) : Except FileError Report :=
  (analysis path .lowered).map (·.1)

/-- Under every flag the analysis of a file comes to its one outcome after some polls, or it is
cancelled, and then the flag was raised. -/
structure AllOrNothing (analysis : FileAnalysis) : Prop where
  own : ∀ path, analysis.outcome path ≠ .error (.analysis .cancelled)
  comes : ∀ (path : Path) (flag : Flag),
    (analysis path flag = .error (.analysis .cancelled) ∧ ∃ poll, flag poll = true) ∨
      ∃ polls, analysis path flag =
        (analysis.outcome path).map fun report => (report, flag.after polls)

theorem allOrNothing_of_outcomes {analysis : FileAnalysis}
    (comes : ∀ path, ∃ outcome : Except FileError Report,
      outcome ≠ .error (.analysis .cancelled) ∧ ∀ flag : Flag,
        (analysis path flag = .error (.analysis .cancelled) ∧ ∃ poll, flag poll = true) ∨
          ∃ polls, analysis path flag = outcome.map fun report => (report, flag.after polls)) :
    analysis.AllOrNothing := by
  have undisturbed (path : Path) : analysis.outcome path = (comes path).choose := by
    obtain ⟨polls, came⟩ :=
      ((comes path).choose_spec.2 .lowered).resolve_left (by simp [Flag.lowered])
    rw [outcome, came]
    cases (comes path).choose <;> rfl
  constructor
  case own =>
    intro path
    rw [undisturbed]
    exact (comes path).choose_spec.1
  case comes =>
    intro path
    rw [undisturbed]
    exact (comes path).choose_spec.2

def tally (analysis : FileAnalysis) (files : List Path) : WorkerResult where
  reports := files.filterMap fun path => (analysis.outcome path).toOption
  failed := files.countP fun path => (analysis.outcome path).toOption.isNone

/-- A scan that analyses the files one after the other. -/
def inSequence (analysis : FileAnalysis) (files : List Path) : ScanResult where
  reports := sortReports (analysis.tally files).reports
  failed := (analysis.tally files).failed
  cancelled := false

variable {analysis : FileAnalysis} {flag : Flag}

theorem tally_cons_of_ok {path : Path} {report : Report} (rest : List Path)
    (given : analysis.outcome path = .ok report) :
    analysis.tally (path :: rest) =
      { analysis.tally rest with reports := report :: (analysis.tally rest).reports } := by
  simp [tally, given, Except.toOption]

theorem tally_cons_of_error {path : Path} {error : FileError} (rest : List Path)
    (given : analysis.outcome path = .error error) :
    analysis.tally (path :: rest) =
      { analysis.tally rest with failed := (analysis.tally rest).failed + 1 } := by
  simp [tally, given, Except.toOption]

theorem reports_tally_append (first second : List Path) :
    (analysis.tally (first ++ second)).reports =
      (analysis.tally first).reports ++ (analysis.tally second).reports :=
  List.filterMap_append

theorem failed_tally_append (first second : List Path) :
    (analysis.tally (first ++ second)).failed =
      (analysis.tally first).failed + (analysis.tally second).failed :=
  List.countP_append

theorem length_reports_add_failed (analysis : FileAnalysis) (files : List Path) :
    (analysis.tally files).reports.length + (analysis.tally files).failed = files.length := by
  rw [tally, List.length_filterMap_eq_countP,
    List.length_eq_countP_add_countP fun path => (analysis.outcome path).toOption.isSome]
  simp only [Bool.not_eq_true, Option.isSome_eq_false_iff, Bool.decide_eq_true]

/-- A result tallies a beginning of some files, and all of them unless the flag was raised. -/
def Tallies (analysis : FileAnalysis) (flag : Flag) (files : List Path) (result : WorkerResult) :
    Prop :=
  ∃ seen, seen <+: files ∧ result = analysis.tally seen ∧
    (seen = files ∨ ∃ poll, flag poll = true)

theorem tallies_of_raised (files : List Path) (raised : ∃ poll, flag poll = true) :
    analysis.Tallies flag files { reports := [], failed := 0 } :=
  ⟨[], List.nil_prefix, rfl, Or.inr raised⟩

theorem Tallies.cons {path : Path} {rest : List Path} {polls : Nat} {result later : WorkerResult}
    (tallied : analysis.Tallies (flag.after polls) rest later)
    (counted : ∀ seen, later = analysis.tally seen → result = analysis.tally (path :: seen)) :
    analysis.Tallies flag (path :: rest) result := by
  obtain ⟨seen, beginning, same, complete⟩ := tallied
  refine ⟨path :: seen, List.cons_prefix_cons.mpr ⟨rfl, beginning⟩, counted seen same, ?_⟩
  rcases complete with rfl | ⟨poll, raised⟩
  · exact Or.inl rfl
  · exact Or.inr ⟨polls + poll, raised⟩

/-- A worker stops early only if it sees the flag raised. -/
theorem AllOrNothing.tallies_work (whole : analysis.AllOrNothing) (files : List Path)
    (flag : Flag) : analysis.Tallies flag files (work analysis files flag) := by
  induction files generalizing flag with
  | nil => exact ⟨[], List.prefix_rfl, rfl, Or.inl rfl⟩
  | cons path rest inductionHypothesis =>
    rw [work]
    cases first : flag 0 with
    | true => exact tallies_of_raised (path :: rest) ⟨0, first⟩
    | false =>
      simp only [Bool.false_eq_true, ↓reduceIte]
      rcases whole.comes path (flag.after 1) with ⟨cancelled, poll, raised⟩ | ⟨polls, came⟩
      · rw [cancelled]
        exact tallies_of_raised (path :: rest) ⟨1 + poll, raised⟩
      · cases given : analysis.outcome path with
        | ok report =>
          simp only [came, given, Except.map, flag.after_after]
          refine (inductionHypothesis (flag.after (1 + polls))).cons fun seen same => ?_
          rw [tally_cons_of_ok seen given, ← same]
        | error error =>
          have other : error ≠ .analysis .cancelled := fun same => whole.own path (same ▸ given)
          simp only [came, given, Except.map]
          refine (inductionHypothesis (flag.after 1)).cons fun seen same => ?_
          rw [tally_cons_of_error seen given, ← same]

theorem AllOrNothing.tallies_workers (whole : analysis.AllOrNothing)
    (shares : List (List Path)) (seenBy : Nat → Flag) (failed : Nat) :
    ∃ seen : List Path, seen.Sublist shares.flatten ∧
      ((shares.mapIdx fun worker share => work analysis share (seenBy worker)).flatMap
        (·.reports)) = (analysis.tally seen).reports ∧
      (shares.mapIdx fun worker share => work analysis share (seenBy worker)).foldl
        (fun failed result => failed + result.failed) failed =
          failed + (analysis.tally seen).failed ∧
      (seen = shares.flatten ∨ ∃ worker poll, seenBy worker poll = true) := by
  induction shares generalizing seenBy failed with
  | nil => exact ⟨[], List.Sublist.slnil, rfl, rfl, Or.inl rfl⟩
  | cons share rest inductionHypothesis =>
    obtain ⟨own, beginning, worked, complete⟩ := whole.tallies_work share (seenBy 0)
    obtain ⟨seen, part, reports, count, completeLater⟩ :=
      inductionHypothesis (fun worker => seenBy (worker + 1)) (failed + (analysis.tally own).failed)
    refine ⟨own ++ seen, beginning.sublist.append part, ?_, ?_, ?_⟩
    · rw [List.mapIdx_cons, List.flatMap_cons, worked, reports, reports_tally_append]
    · rw [List.mapIdx_cons, List.foldl_cons, worked, count, failed_tally_append, Nat.add_assoc]
    · rcases complete with rfl | ⟨poll, raised⟩
      · rcases completeLater with rfl | ⟨worker, poll, raised⟩
        · exact Or.inl rfl
        · exact Or.inr ⟨worker + 1, poll, raised⟩
      · exact Or.inr ⟨0, poll, raised⟩

end FileAnalysis

inductive ScanEvent where
  | raise
  | poll (worker : Nat)
  deriving DecidableEq

namespace SharedFlag

/-- What a worker sees at one of its polls, if the flag is raised or lowered now and this is what
happens from now on. Polls that come after all this see what is left then. -/
def answerIn (worker : Nat) : List ScanEvent → Bool → Flag
  | [], raised, _ => raised
  | .raise :: rest, _, question => answerIn worker rest true question
  | .poll other :: rest, raised, question =>
    if other = worker then
      match question with
      | 0 => raised
      | question + 1 => answerIn worker rest raised question
    else answerIn worker rest raised question

/-- The flag that is lowered at first, while the workers poll it and somebody may raise it. -/
def ofHistory (history : List ScanEvent) : SharedFlag where
  seenBy worker := answerIn worker history false
  atEnd := history.contains .raise

theorem raised_of_answerIn {worker question : Nat} {history : List ScanEvent} {raised : Bool}
    (answered : answerIn worker history raised question = true) :
    raised = true ∨ history.contains .raise = true := by
  fun_induction answerIn worker history raised question with
  | case1 => exact Or.inl answered
  | case2 => simp
  | case3 => exact Or.inl answered
  | case4 _ _ _ inductionHypothesis => simpa using inductionHypothesis answered
  | case5 _ _ _ _ _ inductionHypothesis => simpa using inductionHypothesis answered

theorem atEnd_of_seenBy {history : List ScanEvent} {worker poll : Nat}
    (seen : (ofHistory history).seenBy worker poll = true) : (ofHistory history).atEnd = true := by
  rcases raised_of_answerIn seen with absurdity | raised
  · simp at absurdity
  · exact raised

-- One worker looks before the flag is raised and once more afterwards, the other one only afterwards.
example : (ofHistory [.poll 0, .raise, .poll 1, .poll 0]).seenBy 0 0 = false ∧
    (ofHistory [.poll 0, .raise, .poll 1, .poll 0]).seenBy 0 1 = true ∧
    (ofHistory [.poll 0, .raise, .poll 1, .poll 0]).seenBy 1 0 = true := by decide

end SharedFlag

namespace FileAnalysis

variable {analysis : FileAnalysis}

/-- A scan tallies a part of the files, and all of them unless the flag is raised at the end. -/
theorem AllOrNothing.exists_part (whole : analysis.AllOrNothing) (workers : Nat)
    (history : List ScanEvent) (files : List Path) :
    ∃ seen : List Path, seen.Sublist files ∧
      (scanFiles analysis workers (.ofHistory history) files).reports =
        sortReports (analysis.tally seen).reports ∧
      (scanFiles analysis workers (.ofHistory history) files).failed =
        (analysis.tally seen).failed ∧
      (seen = files ∨ (SharedFlag.ofHistory history).atEnd = true) := by
  cases files with
  | nil =>
    exact ⟨[], List.Sublist.slnil, by simp [scanFiles, sortReports, tally], rfl, Or.inl rfl⟩
  | cons path rest =>
    obtain ⟨seen, part, reports, failed, complete⟩ := whole.tallies_workers
      (shareOut workers (path :: rest)) (SharedFlag.ofHistory history).seenBy 0
    rw [shareOut, flatten_stretches] at part complete
    refine ⟨seen, part, ?_, ?_, complete.imp_right fun ⟨worker, poll, raised⟩ =>
      SharedFlag.atEnd_of_seenBy raised⟩
    · exact congrArg sortReports reports
    · exact failed.trans (Nat.zero_add _)

theorem pairwise_reports (analysis : FileAnalysis) (workers : Nat) (flag : SharedFlag)
    (files : List Path) :
    (scanFiles analysis workers flag files).reports.Pairwise
      fun first second => first.path ≤ second.path := by
  cases files with
  | nil => exact List.Pairwise.nil
  | cons path rest => exact pairwise_sortReports _

theorem subperm_inSequence {seen files : List Path} (part : seen.Sublist files) :
    (sortReports (analysis.tally seen).reports).Subperm (analysis.inSequence files).reports := by
  have fewer := (part.filterMap fun path => (analysis.outcome path).toOption).subperm
  exact (List.mergeSort_perm _ _).subperm.trans (fewer.trans (List.mergeSort_perm _ _).symm.subperm)

/-- A scan that does not count as cancelled has missed nothing. -/
theorem AllOrNothing.scanFiles_of_not_cancelled (whole : analysis.AllOrNothing) {workers : Nat}
    {history : List ScanEvent} {files : List Path}
    (finished : (scanFiles analysis workers (.ofHistory history) files).cancelled = false) :
    scanFiles analysis workers (.ofHistory history) files = analysis.inSequence files := by
  obtain ⟨seen, part, reports, failed, complete⟩ := whole.exists_part workers history files
  have all : seen = files := by
    cases files with
    | nil => exact List.sublist_nil.mp part
    | cons path rest => exact complete.resolve_right (Bool.eq_false_iff.mp finished)
  rw [all] at reports failed
  generalize scanFiles analysis workers (.ofHistory history) files = scanned at *
  cases scanned
  simp only at reports failed finished
  rw [reports, failed, finished, inSequence]

theorem cancelled_eq_false {workers : Nat} {history : List ScanEvent} (files : List Path)
    (lowered : .raise ∉ history) :
    (scanFiles analysis workers (.ofHistory history) files).cancelled = false := by
  cases files with
  | nil => rfl
  | cons path rest => simpa [scanFiles, SharedFlag.ofHistory] using lowered

/-- **Sharing.** Files are shared out in stretches, which are not more than the workers, and which
put together are the files. Whatever the workers poll when, and whether or not somebody raises the
flag in between: the reports are in the order of their paths, and each is one of those that come if
the files are analysed one after the other. If the scan does not count as cancelled then it gives
just what comes then, which is the case if nobody raises the flag. -/
theorem AllOrNothing.scanFiles_shared (whole : analysis.AllOrNothing) {workers : Nat}
    (positive : 0 < workers) (files : List Path) :
    (shareOut workers files).length ≤ workers ∧ (shareOut workers files).flatten = files ∧
      (∀ stretch ∈ shareOut workers files, stretch ≠ []) ∧
      (analysis.inSequence files).reports.length + (analysis.inSequence files).failed =
        files.length ∧
      ∀ history : List ScanEvent,
        let scanned := scanFiles analysis workers (.ofHistory history) files
        scanned.reports.Pairwise (fun first second => first.path ≤ second.path) ∧
          scanned.reports.Subperm (analysis.inSequence files).reports ∧
          scanned.failed ≤ (analysis.inSequence files).failed ∧
          (scanned.cancelled = false → scanned = analysis.inSequence files) ∧
          (.raise ∉ history → scanned = analysis.inSequence files) := by
  refine ⟨length_shareOut_le positive files, flatten_stretches _ files,
    fun stretch => ne_nil_of_mem_stretches, ?_, fun history => ?_⟩
  · rw [inSequence, sortReports, List.length_mergeSort, analysis.length_reports_add_failed]
  · obtain ⟨seen, part, reports, failed, _⟩ := whole.exists_part workers history files
    refine ⟨analysis.pairwise_reports workers _ files, ?_, ?_, whole.scanFiles_of_not_cancelled,
      fun lowered => whole.scanFiles_of_not_cancelled (cancelled_eq_false files lowered)⟩
    · rw [reports]
      exact subperm_inSequence part
    · rw [failed]
      exact part.countP_le

end FileAnalysis

namespace Report

variable {grammar : Grammar} {disk : FileSystem} {mode : Mode} {path : Path} {text : String}
  {lossy : Bool}

theorem ofFile_of_ok {flag later : Flag} {spans : List Span}
    (read : disk.readText path = .ok (text, lossy))
    (given : ((SourceUnit.parse grammar text (some path)).spans grammar disk mode).run flag =
      .ok (spans, later)) :
    Report.ofFile grammar disk mode path flag =
      .ok (.ofSpans (plainPath path.text) mode text spans, later) := by
  rw [StateT.run] at given
  simp only [Report.ofFile, read, given]

theorem ofFile_of_error {flag : Flag} {error : AnalysisError}
    (read : disk.readText path = .ok (text, lossy))
    (failed : ((SourceUnit.parse grammar text (some path)).spans grammar disk mode).run flag =
      .error error) :
    Report.ofFile grammar disk mode path flag = .error (.analysis error) := by
  rw [StateT.run] at failed
  simp only [Report.ofFile, read, failed]

theorem exists_outcome (grammar : Grammar) (disk : FileSystem) (mode : Mode) (path : Path) :
    ∃ outcome : Except FileError Report, outcome ≠ .error (.analysis .cancelled) ∧
      ∀ flag : Flag,
        (Report.ofFile grammar disk mode path flag = .error (.analysis .cancelled) ∧
          ∃ poll, flag poll = true) ∨
        ∃ polls, Report.ofFile grammar disk mode path flag =
          outcome.map fun report => (report, flag.after polls) := by
  cases read : disk.readText path with
  | error error =>
    refine ⟨.error (.disk error), by simp, fun flag => Or.inr ⟨0, ?_⟩⟩
    simp only [Report.ofFile, read]
    rfl
  | ok found =>
    obtain ⟨text, lossy⟩ := found
    obtain ⟨count, outcome, polls, _⟩ :=
      (SourceUnit.parse grammar text (some path)).attentive_spans grammar disk mode
    have heard (flag : Flag) (raised : ∃ poll < count, flag poll = true) :
        Report.ofFile grammar disk mode path flag = .error (.analysis .cancelled) ∧
          ∃ poll, flag poll = true :=
      ⟨ofFile_of_error read (polls.cancelled flag raised), raised.imp fun _ => And.right⟩
    cases outcome with
    | ok spans =>
      refine ⟨.ok (.ofSpans (plainPath path.text) mode text spans), by simp, fun flag => ?_⟩
      rcases Cancellable.raised_before_or_after flag count 0 with raised | ⟨lowered, _⟩
      · exact Or.inl (heard flag raised)
      · exact Or.inr ⟨count, ofFile_of_ok read (polls.undisturbed flag lowered)⟩
    | error error =>
      have other : error ≠ .cancelled := fun same => polls.own (same ▸ rfl)
      refine ⟨.error (.analysis error), by simpa using other, fun flag => ?_⟩
      rcases Cancellable.raised_before_or_after flag count 0 with raised | ⟨lowered, _⟩
      · exact Or.inl (heard flag raised)
      · exact Or.inr ⟨count, ofFile_of_error read (polls.undisturbed flag lowered)⟩

theorem allOrNothing_ofFile (grammar : Grammar) (disk : FileSystem) (mode : Mode) :
    FileAnalysis.AllOrNothing (Report.ofFile grammar disk mode) :=
  FileAnalysis.allOrNothing_of_outcomes (exists_outcome grammar disk mode)

end Report

def oneFileDisk : FileSystem where
  workingDirectory := ["work"]
  entries := [(["work", "main.ts"], .file "async function f() \x7b\x7d".toUTF8)]

def oneFileAnalysis : FileAnalysis := Report.ofFile onlyAsyncFunction oneFileDisk .heuristic

def threePaths : List Path := [⟨"main.ts"⟩, ⟨"gone.ts"⟩, ⟨"main.ts"⟩]

theorem FileAnalysis.scanFiles_shared_twoWorkers :
    oneFileAnalysis.AllOrNothing ∧ 0 < 2 ∧
      (shareOut 2 threePaths).length ≤ 2 ∧ (shareOut 2 threePaths).flatten = threePaths ∧
      (oneFileAnalysis.inSequence threePaths).reports.length +
        (oneFileAnalysis.inSequence threePaths).failed = 3 ∧
      (scanFiles oneFileAnalysis 2 (.ofHistory [.poll 0, .poll 0, .raise, .poll 1])
        threePaths).reports.Pairwise (fun first second => first.path ≤ second.path) ∧
      (scanFiles oneFileAnalysis 2 (.ofHistory [.poll 0, .poll 0, .raise, .poll 1])
        threePaths).reports.Subperm (oneFileAnalysis.inSequence threePaths).reports ∧
      scanFiles oneFileAnalysis 2 (.ofHistory [.poll 0, .poll 1]) threePaths =
        oneFileAnalysis.inSequence threePaths := by
  have whole : oneFileAnalysis.AllOrNothing :=
    Report.allOrNothing_ofFile onlyAsyncFunction oneFileDisk .heuristic
  obtain ⟨few, together, _, complete, shared⟩ := whole.scanFiles_shared Nat.two_pos threePaths
  exact ⟨whole, Nat.two_pos, few, together, complete, (shared _).1, (shared _).2.1,
    (shared _).2.2.2.2 (by decide)⟩

end PromiseDetection

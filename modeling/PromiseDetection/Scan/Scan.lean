import PromiseDetection.Library.FileWalk
import PromiseDetection.Report.Basic
import PromiseDetection.Source.Extensions

/-!
Scans: the files below a directory, shared out to workers and analysed.

Each worker gets a stretch of the files and asks the cancellation flag before each file and while it
analyses one. A worker that sees the flag raised stops and keeps the reports it has.
-/

namespace PromiseDetection

/-- A walk finds the files below a path. It is told whether hidden entries are looked at, and
whether the ignore files of version control do not count. -/
abbrev FileWalk := FileSystem → (hidden noIgnore : Bool) → Path → List Path

structure ScanSettings where
  extensions : List String
  /-- Which files are left out, by the texts of their paths. -/
  exclude? : Option (String → Bool)
  hidden : Bool
  noIgnore : Bool
  /-- The number of workers, or zero for as many as the machine has. -/
  threads : Nat
  mode : Mode
  walk : FileWalk := FileSystem.walkFiles

def ScanSettings.wants (options : ScanSettings) (path : Path) : Bool :=
  Extensions.admits options.extensions path &&
    !(options.exclude?.any fun isExcluded => isExcluded (plainPath path.text))

/-- The files that a scan looks at, in the order of their paths. -/
def filesToScan (disk : FileSystem) (options : ScanSettings) (root : Path) : List Path :=
  ((options.walk disk options.hidden options.noIgnore root).filter options.wants).mergeSort
    fun first second => !second.before first

abbrev FileAnalysis := Path → StateT Flag (Except FileError) Report

structure WorkerResult where
  reports : List Report
  failed : Nat

/-- Analyses one file after the other until the flag is seen raised. A file fails before its
analysis asks the flag, so the next file asks next. -/
def work (analysis : FileAnalysis) : List Path → Flag → WorkerResult
  | [], _ => { reports := [], failed := 0 }
  | path :: rest, flag =>
    if flag 0 then { reports := [], failed := 0 }
    else
      match analysis path (flag.after 1) with
      | .ok (report, flag) =>
        let later := work analysis rest flag
        { later with reports := report :: later.reports }
      | .error (.analysis .cancelled) => { reports := [], failed := 0 }
      | .error _ =>
        let later := work analysis rest (flag.after 1)
        { later with failed := later.failed + 1 }

/-- Cuts a list into stretches of `more + 1` items. The last one may be shorter. -/
def stretches {α : Type} (more : Nat) : List α → List (List α)
  | [] => []
  | item :: rest => (item :: rest.take more) :: stretches more (rest.drop more)
termination_by items => items.length
decreasing_by simp only [List.length_drop, List.length_cons]; omega

/-- Shares items out to workers, in stretches as short as their number allows. -/
def shareOut {α : Type} (workers : Nat) (items : List α) : List (List α) :=
  stretches ((items.length - 1) / workers) items

/-- What the workers see of a cancellation flag: the answers it gives each of them, and whether it
is raised when they are done. -/
structure SharedFlag where
  seenBy : Nat → Flag
  atEnd : Bool

def SharedFlag.constant (raised : Bool) : SharedFlag :=
  { seenBy := fun _ _ => raised, atEnd := raised }

structure ScanResult where
  /-- The reports in the order of the texts of their paths. -/
  reports : List Report
  failed : Nat
  cancelled : Bool

def sortReports (reports : List Report) : List Report :=
  reports.mergeSort fun first second => first.path ≤ second.path

def scanFiles (analysis : FileAnalysis) (workers : Nat) (flag : SharedFlag) (files : List Path) :
    ScanResult :=
  if files.isEmpty then { reports := [], failed := 0, cancelled := false }
  else
    let results := (shareOut workers files).mapIdx fun worker stretch =>
      work analysis stretch (flag.seenBy worker)
    { reports := sortReports (results.flatMap (·.reports))
      failed := results.foldl (fun failed result => failed + result.failed) 0
      cancelled := flag.atEnd }

/-- The number of workers where the number of processors is not known. -/
def fewWorkers : Nat := 4

def scan (grammar : Grammar) (disk : FileSystem) (options : ScanSettings) (root : Path)
    (flag : SharedFlag) : ScanResult :=
  scanFiles (Report.ofFile grammar disk options.mode)
    (if options.threads = 0 then fewWorkers else options.threads) flag
    (filesToScan disk options root)

end PromiseDetection

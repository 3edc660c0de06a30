import PromiseDetection.Report.Basic
import PromiseDetection.Watch.ChangeSet

/-!
Watching a directory: what is said about each batch of changed files.

A watch looks at everything below one directory. The files of a batch are analysed afresh, each by
itself, with the disk as it is when the batch is handed out. Files that cannot be read are passed
over in silence.
-/

namespace PromiseDetection

inductive Change where
  | written (path : Path) (bytes : ByteArray)
  | removed (path : Path)
  | renamed (source target : Path)

namespace Change

def apply (disk : FileSystem) : Change → FileSystem
  | .written path bytes => disk.write (disk.placeNamed path) bytes
  | .removed path => disk.remove (disk.placeNamed path)
  | .renamed source target => disk.move (disk.placeNamed source) (disk.placeNamed target)

/-- What a change makes known: a sort of event and the places it is about. Both names of a renamed
file count as modified. -/
def notice (disk : FileSystem) : Change → EventKind × List Place
  | .written path _ => (.modified, [disk.placeNamed path])
  | .removed path => (.removed, [disk.placeNamed path])
  | .renamed source target => (.modified, [disk.placeNamed source, disk.placeNamed target])

end Change

structure Watch where
  directory : Place
  extensions : List String
  mode : Mode

namespace Watch

def readyLine (watch : Watch) : String :=
  "Watching " ++ plainPath (Path.ofNames watch.directory).text ++ " (Ctrl-C to stop)"

def event (watch : Watch) (kind : EventKind) (places : List Place) : Event where
  kind := kind
  paths := (places.filter watch.directory.isPrefixOf).map Path.ofNames

def batchOf (watch : Watch) (disk : FileSystem) (changes : List Change) : ChangeSet :=
  changes.foldl
    (fun batch change =>
      let (kind, places) := change.notice disk
      batch.observe watch.extensions (watch.event kind places))
    .empty

def changedLines (grammar : Grammar) (disk : FileSystem) (watch : Watch) (path : Path) :
    List String :=
  match (Report.ofFile grammar disk watch.mode path).run Flag.lowered with
  | .error _ => []
  | .ok (report, _) =>
    (report.path ++ ": " ++ toString report.findings.length ++ " promise spans") :: report.lines

def removedLine (path : Path) : String := plainPath path.text ++ ": removed"

/-- The lines about a batch: the removed files first, then the changed ones. -/
def lines (grammar : Grammar) (disk : FileSystem) (watch : Watch) (batch : ChangeSet) :
    List String :=
  batch.removed.map removedLine ++ batch.changed.flatMap (watch.changedLines grammar disk)

/-- Carries out changes made at once: the disk after them and the lines about them. -/
def step (grammar : Grammar) (watch : Watch) (disk : FileSystem) (changes : List Change) :
    FileSystem × List String :=
  let after := changes.foldl Change.apply disk
  (after, watch.lines grammar after (watch.batchOf disk changes))

end Watch

end PromiseDetection

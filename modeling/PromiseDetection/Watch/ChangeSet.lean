import PromiseDetection.Source.Extensions

/-!
Batches of changed files.

A batch holds the files that changed and the files that went away. The last event about a file
decides in which of the two it is; it is never in both.
-/

namespace PromiseDetection

inductive EventKind where
  | created
  | modified
  | removed
  /-- Anything else, for instance that a file was read. -/
  | other
  deriving DecidableEq, Repr

structure Event where
  kind : EventKind
  paths : List Path

/-- The changed and the removed files, each of them in the order of paths. -/
structure ChangeSet where
  changed : List Path
  removed : List Path
  deriving DecidableEq, Repr

namespace ChangeSet

def empty : ChangeSet := { changed := [], removed := [] }

def isEmpty (batch : ChangeSet) : Bool := batch.changed.isEmpty && batch.removed.isEmpty

def without (path : Path) (paths : List Path) : List Path :=
  paths.filter fun other => !path.same other

def note (kind : EventKind) (batch : ChangeSet) (path : Path) : ChangeSet :=
  match kind with
  | .created | .modified =>
    { changed := path.insertInto batch.changed, removed := without path batch.removed }
  | .removed => { changed := without path batch.changed, removed := path.insertInto batch.removed }
  | .other => batch

/-- Takes account of an event. Only paths with one of the extensions count. -/
def observe (extensions : List String) (batch : ChangeSet) (event : Event) : ChangeSet :=
  (event.paths.filter (Extensions.admits extensions)).foldl (note event.kind) batch

def drain (batch : ChangeSet) : ChangeSet × ChangeSet := (batch, empty)

end ChangeSet

end PromiseDetection

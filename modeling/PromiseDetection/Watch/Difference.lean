import PromiseDetection.Watch.Session

/-!
The changes that lead from one state of the disk to another.

Only files count: a file was written when its bytes are new at its place, and it was removed when
nothing but perhaps a directory is left there.
-/

namespace PromiseDetection

namespace FileSystem

def bytesAt? (disk : FileSystem) (place : Place) : Option ByteArray :=
  match disk.at? place with
  | some (.file bytes) => some bytes
  | _ => none

def files (disk : FileSystem) : List (Place × ByteArray) :=
  disk.entries.filterMap fun (place, content) =>
    match content with
    | .file bytes => some (place, bytes)
    | .directory => none

/-- The changes from a disk to a later state of it: the removed files, then the written ones. -/
def changesTo (disk later : FileSystem) : List Change :=
  (disk.files.filter fun file => (later.bytesAt? file.1).isNone).map
      (fun file => .removed (Path.ofNames file.1)) ++
    (later.files.filter fun file => !(disk.bytesAt? file.1 == some file.2)).map
      fun file => .written (Path.ofNames file.1) file.2

end FileSystem

end PromiseDetection

import PromiseDetection.Disk.Path
import PromiseDetection.Text.Decoding

/-!
A file system at one moment.

Places are lists of names from the root. A place is a directory when it is listed as one or when
something lies inside it, and the working directory is always there. There are no symbolic links,
and nobody is kept from reading a file: a file that a path leads to cannot be read by its canonical
path only where the working directory has a name that no path can spell.
-/

namespace PromiseDetection

inductive DiskError where
  | notFound
  | notADirectory
  | isADirectory
  | invalidInput
  | invalidFilename
  | invalidData
  deriving DecidableEq, Repr

inductive Content where
  | file (bytes : ByteArray)
  | directory

namespace Content

def isFile : Content → Bool
  | .file _ => true
  | .directory => false

end Content

/-- The names from the root to a place. -/
abbrev Place := List String

structure FileSystem where
  workingDirectory : Place
  entries : List (Place × Content)

namespace FileSystem

def at? (disk : FileSystem) (place : Place) : Option Content :=
  match disk.entries.lookup place with
  | some content => some content
  | none =>
    if place.isPrefixOf disk.workingDirectory ||
        disk.entries.any fun entry => place.isPrefixOf entry.1
    then some .directory
    else none

/-- Follows the pieces of a path from a place. Every piece but a name needs a directory too. -/
def follow (disk : FileSystem) (place : Place) : List String → Except DiskError Place
  | [] => .ok place
  | piece :: rest =>
    match disk.at? place with
    | none => .error .notFound
    | some (.file _) => .error .notADirectory
    | some .directory =>
      if piece = "" ∨ piece = "." then disk.follow place rest
      else if piece = ".." then disk.follow place.dropLast rest
      else if 255 < piece.utf8ByteSize then .error .invalidFilename
      else
        match disk.at? (place ++ [piece]) with
        | none => .error .notFound
        | some _ => disk.follow (place ++ [piece]) rest

def locate (disk : FileSystem) (path : Path) : Except DiskError Place :=
  if path.text.toList.contains '\x00' then .error .invalidInput
  else if path.text.isEmpty then .error .notFound
  else
    disk.follow (if path.isAbsolute then [] else disk.workingDirectory)
      (Text.fields '/' path.text)

def contentOf (disk : FileSystem) (path : Path) : Except DiskError Content := do
  let place ← disk.locate path
  match disk.at? place with
  | some content => .ok content
  | none => .error .notFound

def isFile (disk : FileSystem) (path : Path) : Bool :=
  match disk.contentOf path with
  | .ok (.file _) => true
  | _ => false

def isDirectory (disk : FileSystem) (path : Path) : Bool :=
  match disk.contentOf path with
  | .ok .directory => true
  | _ => false

def readBytes (disk : FileSystem) (path : Path) : Except DiskError ByteArray := do
  match ← disk.contentOf path with
  | .file bytes => .ok bytes
  | .directory => .error .isADirectory

/-- The text of a file, and whether bytes had to be replaced. -/
def readText (disk : FileSystem) (path : Path) : Except DiskError (String × Bool) :=
  (disk.readBytes path).map Text.ofBytes

/-- The one absolute path of an existing place; a path that leads nowhere stays as it is. -/
def canonical (disk : FileSystem) (path : Path) : Path :=
  match disk.locate path with
  | .ok place => Path.ofNames place
  | .error _ => path

/-- A path without the working directory at its front; the working directory itself is a dot. -/
def relative (disk : FileSystem) (path : Path) : Path :=
  let front := disk.workingDirectory.map PathPart.name
  match path.parts with
  | .root :: rest =>
    if rest = front then ⟨"."⟩
    else if front.isPrefixOf rest then Path.ofParts (rest.drop front.length)
    else path
  | _ => path

def placeNamed (disk : FileSystem) (path : Path) : Place :=
  path.parts.foldl
    (fun place part =>
      match part with
      | .root => []
      | .here => place
      | .up => place.dropLast
      | .name text => place ++ [text])
    disk.workingDirectory

def write (disk : FileSystem) (place : Place) (bytes : ByteArray) : FileSystem :=
  { disk with
    entries := disk.entries.filter (fun entry => entry.1 ≠ place) ++ [(place, .file bytes)] }

/-- Keeps the directory around a place when the place itself goes. -/
def keepParent (disk : FileSystem) (place : Place) : FileSystem :=
  let parent := place.dropLast
  if disk.entries.any (fun entry => entry.1 = parent) then disk
  else { disk with entries := disk.entries ++ [(parent, .directory)] }

def remove (disk : FileSystem) (place : Place) : FileSystem :=
  { disk.keepParent place with
    entries := (disk.keepParent place).entries.filter fun entry => entry.1 ≠ place }

def move (disk : FileSystem) (source target : Place) : FileSystem :=
  match disk.at? source with
  | some (.file bytes) => (disk.remove source).write target bytes
  | _ => disk

end FileSystem

end PromiseDetection

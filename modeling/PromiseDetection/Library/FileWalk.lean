import PromiseDetection.Disk.FileSystem
import PromiseDetection.Library.IgnoreRule

/-!
The files below a directory.

A file is found when neither it nor a directory on the way to it is passed over. What is passed over
is told by the ignore files of the directories around it, where the nearest one that says something
decides. Hidden entries are passed over too, unless a rule keeps them.
-/

namespace PromiseDetection

namespace FileSystem

def rulesAt (disk : FileSystem) (directory : Place) (names : List String) : List IgnoreRule :=
  match disk.at? (directory ++ names) with
  | some (.file bytes) => IgnoreRule.ofFile bytes
  | _ => []

def isRepository (disk : FileSystem) (directory : Place) : Bool :=
  (disk.at? (directory ++ [".git"])).isSome

/-- The directories around an entry, the nearest one first, each with the path from it to the
entry. -/
def surroundings : Place → List (Place × List String)
  | [] => []
  | entry@(_ :: _) =>
    (List.range entry.length).reverse.map fun count => (entry.take count, entry.drop count)

def withinRepository (disk : FileSystem) :
    List (Place × List String) → List (Place × List String)
  | [] => []
  | around :: rest =>
    if disk.isRepository around.1 then [around] else around :: disk.withinRepository rest

def nearestVerdict? (disk : FileSystem) (file : List String) (isDirectory : Bool)
    (around : List (Place × List String)) : Option Verdict :=
  around.findSome? fun directory =>
    verdict? (disk.rulesAt directory.1 file) directory.2 isDirectory

/-- What the ignore files say about an entry. The rules of version control count inside a repository
only. -/
def ignoreVerdict? (disk : FileSystem) (noIgnore : Bool) (entry : Place) (isDirectory : Bool) :
    Option Verdict :=
  let around := surroundings entry
  let own? := disk.nearestVerdict? [".ignore"] isDirectory around
  if noIgnore || !(around.any fun directory => disk.isRepository directory.1) then own?
  else
    let tracked := disk.withinRepository around
    (own?.or (disk.nearestVerdict? [".gitignore"] isDirectory tracked)).or
      (disk.nearestVerdict? [".git", "info", "exclude"] isDirectory tracked)

def isHidden (entry : Place) : Bool :=
  match entry.getLast? with
  | some name => Text.startsWith name "."
  | none => false

def passesOver (disk : FileSystem) (hidden noIgnore : Bool) (entry : Place) (isDirectory : Bool) :
    Bool :=
  match disk.ignoreVerdict? noIgnore entry isDirectory with
  | some .passOver => true
  | some .keep => false
  | none => !hidden && isHidden entry

def reaches (disk : FileSystem) (hidden noIgnore : Bool) (directory : Place)
    (names : List String) : Bool :=
  (List.range names.length).all fun count =>
    !disk.passesOver hidden noIgnore (directory ++ names.take (count + 1)) (count + 1 < names.length)

/-- The files that a walk from a path comes to, spelled as the path is. A path that is a file leads
to that file alone. -/
def walkFiles (disk : FileSystem) (hidden noIgnore : Bool) (root : Path) : List Path :=
  match disk.locate root with
  | .error _ => []
  | .ok place =>
    match disk.at? place with
    | some (.file _) => [root]
    | some .directory =>
      disk.entries.filterMap fun entry =>
        let names := entry.1.drop place.length
        if entry.2.isFile && place.isPrefixOf entry.1 && disk.reaches hidden noIgnore place names then
          some (names.foldl (fun path name => path.join ⟨name⟩) root)
        else none
    | none => []

end FileSystem

end PromiseDetection

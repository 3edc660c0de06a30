import PromiseDetection.CommandLine.Run
import PromiseDetection.Source.TreeTable
import PromiseDetection.Watch.Difference

/-!
The program.

It looks at the files below its working directory and below the places that its arguments name, and
follows no links. It parses nothing by itself: the environment variable `PROMISE_TREES` names a file
with a table of syntax trees.
-/

namespace PromiseDetection.Program

def namesOf (path : String) : Place := (Text.fields '/' path).filter (· ≠ "")

/-- What lies below a place. What cannot be read is left out. -/
partial def entriesBelow (place : Place) : IO (List (Place × Content)) := do
  let folder ← IO.FS.realPath (Path.ofNames place).text
  let parts ← (← folder.readDir).toList.mapM fun entry => do
    let inner := place ++ [entry.fileName]
    try
      match (← entry.path.symlinkMetadata).type with
      | .dir => return (inner, Content.directory) :: (← entriesBelow inner)
      | .file => return [(inner, .file (← IO.FS.readBinFile entry.path))]
      | _ => return []
    catch _ => return []
  return parts.flatten

/-- The directory that a path leads to, or the directory around the file it leads to. -/
def folderOf? (path : Path) : IO (Option Place) := do
  try
    let found ← IO.FS.realPath path.text
    let place := namesOf found.toString
    if ← found.isDir then return some place
    else return some place.dropLast
  catch _ => return none

/-- The disk as it is now, as far as some paths need it. -/
def look (paths : List Path) : IO FileSystem := do
  let workingDirectory := namesOf (← IO.currentDir).toString
  let named ← paths.filterMapM folderOf?
  let outside := named.filter fun place => !workingDirectory.isPrefixOf place
  let entries ← (workingDirectory :: outside).mapM entriesBelow
  return { workingDirectory, entries := entries.flatten }

/-- The grammar of the texts whose trees are known. -/
def knownGrammar : IO Grammar := do
  match ← IO.getEnv "PROMISE_TREES" with
  | none => return TreeTable.grammar []
  | some file =>
    let text ← IO.FS.readFile file
    match TreeTable.ofText? text with
    | some table => return table.grammar
    | none => throw (IO.userError ("not a table of syntax trees: " ++ file))

/-- The bytes up to the next line feed and the line feed itself. -/
partial def nextLine (input : IO.FS.Stream) (line : ByteArray) : IO ByteArray := do
  let next ← input.read 1
  let line := line ++ next
  if next.size = 0 ∨ next.toList = [Text.lineFeed] then return line
  else nextLine input line

/-- Serves requests until the input ends, a line is not UTF-8 or a request ends the service. -/
partial def serve (settings : IO Service.Settings) : IO Unit := do
  let line ← nextLine (← IO.getStdin) .empty
  match Text.lines line with
  | some text :: _ =>
    match Service.react (← settings) text with
    | .silence => serve settings
    | .reply reply =>
      IO.println reply.line
      (← IO.getStdout).flush
      serve settings
    | .lastReply reply => IO.println reply.line
  | _ => return

/-- Tells about changes for ever. -/
partial def follow (grammar : Grammar) (request : WatchRequest) (watch : Watch)
    (disk : FileSystem) : IO Unit := do
  IO.sleep request.pause.toUInt32
  let later ← look [⟨request.directory⟩]
  for line in (watch.step grammar disk (disk.changesTo later)).2 do
    IO.println line
  (← IO.getStdout).flush
  follow grammar request watch later

def secondsText (milliseconds : Nat) : String :=
  let places := toString (milliseconds % 1000)
  toString (milliseconds / 1000) ++ "." ++
    String.ofList (List.replicate (3 - places.length) '0') ++ places

def finish (outcome : CommandLine.Outcome) (start : Nat) : IO UInt32 := do
  IO.print outcome.output
  (← IO.getStdout).flush
  for note in outcome.notes (secondsText ((← IO.monoMsNow) - start)) do
    IO.eprintln note
  return outcome.code.toUInt32

def run (arguments : List String) : IO UInt32 := do
  let start ← IO.monoMsNow
  let grammar ← knownGrammar
  match CommandLine.read arguments with
  | .ok (.serve standardMode color) =>
    serve do return { grammar, disk := ← look [], standardMode, color }
    return 0
  | .ok (.watch request) =>
    let disk ← look [⟨request.directory⟩]
    match CommandLine.watchOf disk request with
    | .error error => finish (.failed error) start
    | .ok watch =>
      IO.eprintln watch.readyLine
      follow grammar request watch disk
      return 0
  | command =>
    let disk ← look ((command.toOption.map Command.paths).getD [])
    finish (CommandLine.runArguments { grammar, disk, input := .empty } arguments) start

end PromiseDetection.Program

def main (arguments : List String) : IO UInt32 := PromiseDetection.Program.run arguments

import PromiseDetection.CommandLine.Command
import PromiseDetection.Library.Arguments
import PromiseDetection.Library.Pattern
import PromiseDetection.Scan.Scan
import PromiseDetection.Service.Conversation
import PromiseDetection.Watch.Session

/-!
Running commands: what they print and the code they end with.

A command that cannot do its work ends with code 1 and one line that tells why. A command line that
is no command ends with code 2.
-/

namespace PromiseDetection.CommandLine

structure Libraries where
  readArguments : ArgumentReader
  codec : Service.Codec
  /-- Which texts a written pattern matches, if it is a pattern. -/
  pattern? : String → Option (String → Bool)
  walk : FileWalk

def Libraries.standard : Libraries where
  readArguments := CommandLine.readArguments
  codec := .standard
  pattern? written := (Pattern.read written).toOption
  walk := FileSystem.walkFiles

structure Surroundings where
  grammar : Grammar
  disk : FileSystem
  input : ByteArray
  libraries : Libraries := .standard

inductive CommandError where
  | fileNotFound (path : String)
  | invalidPattern (written : String)
  | noExtensions
  | unreadable (error : DiskError)
  | analysis (error : AnalysisError)
  deriving DecidableEq, Repr

def diskMessage : DiskError → String
  | .notFound => "No such file or directory"
  | .notADirectory => "Not a directory"
  | .isADirectory => "Is a directory"
  | .invalidInput => "invalid path"
  | .invalidFilename => "File name too long"
  | .invalidData => "invalid data"

def CommandError.message : CommandError → String
  | .fileNotFound path => "File does not exist: " ++ path
  | .invalidPattern written => "Invalid --exclude regex '" ++ written ++ "'"
  | .noExtensions => "--ext must name at least one extension"
  | .unreadable error => "I/O error: " ++ diskMessage error
  | .analysis error => error.message

def CommandError.ofFileError : FileError → CommandError
  | .disk error => .unreadable error
  | .analysis error => .analysis error

structure Outcome where
  code : Nat
  output : String
  /-- The lines on standard error, once it is known how long the command took. -/
  notes : (seconds : String) → List String

namespace Outcome

def printing (output : String) : Outcome := { code := 0, output, notes := fun _ => [] }

def noting (code : Nat) (note : String) : Outcome :=
  { code, output := "", notes := fun _ => [note] }

def failed (error : CommandError) : Outcome := noting 1 ("Error: " ++ error.message)

end Outcome

def buildDate : String := "fixed"

def versionLine (isLong : Bool) : String :=
  let short := Service.programName ++ " " ++ Service.programVersion
  (if isLong then short ++ " (built " ++ buildDate ++ ")" else short) ++ "\n"

def reportOutput (codec : Service.Codec) (asJson : Bool) (report : Report) : String :=
  if asJson then codec.write report.json ++ "\n" else report.text

/-- A summary: what was found, how long it took, and the mode. A blank line stands before it. -/
def summary (found : String) (mode : Mode) (seconds : String) : List String :=
  ["", found ++ " in " ++ seconds ++ "s (mode: " ++ mode.name ++ ")"]

def analyzeOne (surroundings : Surroundings) (file : String) (mode : Mode) (asJson : Bool) :
    Except CommandError Outcome := do
  let path : Path := ⟨file⟩
  if !surroundings.disk.isFile path then .error (.fileNotFound file)
  else
    let (report, _) ←
      ((Report.ofFile surroundings.grammar surroundings.disk mode path).run
        Flag.lowered).mapError .ofFileError
    return {
      code := 0
      output := reportOutput surroundings.libraries.codec asJson report
      notes := summary (toString report.findings.length ++ " promise spans") mode }

def alignedCount (count : Nat) : String :=
  let written := toString count
  String.ofList (List.replicate (6 - written.length) ' ') ++ written

def scanOutput (codec : Service.Codec) (request : ScanRequest) (report : Report) : String :=
  if request.onlyCounts then
    if report.findings.isEmpty then ""
    else alignedCount report.findings.length ++ "  " ++ report.path ++ "\n"
  else reportOutput codec request.asJson report

def extensionsOf (written : String) : Except CommandError (List String) :=
  match Extensions.parse written with
  | [] => .error .noExtensions
  | extensions => .ok extensions

def scanSettings (libraries : Libraries) (request : ScanRequest) :
    Except CommandError ScanSettings := do
  let exclude? ←
    match request.exclude? with
    | none => pure none
    | some written =>
      match libraries.pattern? written with
      | none => .error (.invalidPattern written)
      | some isExcluded => pure (some isExcluded)
  let extensions ← extensionsOf request.extensions
  return {
    extensions, exclude?
    hidden := request.hidden
    noIgnore := request.noIgnore
    threads := request.threads
    mode := request.mode
    walk := libraries.walk }

def scanAll (surroundings : Surroundings) (request : ScanRequest) :
    Except CommandError Outcome := do
  let root : Path := ⟨request.directory⟩
  if !surroundings.disk.isDirectory root then .error (.fileNotFound request.directory)
  else
    let options ← scanSettings surroundings.libraries request
    let outcome := scan surroundings.grammar surroundings.disk options root (.constant false)
    let count := outcome.reports.foldl (fun count report => count + report.findings.length) 0
    return {
      code := 0
      output := String.join (outcome.reports.map (scanOutput surroundings.libraries.codec request))
      notes :=
        summary
          (toString count ++ " promise spans in " ++ toString outcome.reports.length ++
            " files (" ++ toString outcome.failed ++ " failed)")
          request.mode }

def watchOf (disk : FileSystem) (request : WatchRequest) : Except CommandError Watch := do
  match disk.locate ⟨request.directory⟩ with
  | .error _ => .error (.fileNotFound request.directory)
  | .ok directory =>
    let extensions ← extensionsOf request.extensions
    return { directory, extensions, mode := request.mode }

def serveAll (surroundings : Surroundings) (mode : Mode) (color : String) : Outcome :=
  let conversation := Service.serve
    { grammar := surroundings.grammar
      disk := surroundings.disk
      standardMode := mode
      color
      codec := surroundings.libraries.codec }
    surroundings.input
  .printing (String.join (conversation.replies.map fun reply => reply.line ++ "\n"))

/-- Runs a command. A watch ends as soon as it is ready, before anything changes. -/
def run (surroundings : Surroundings) : Command → Except CommandError Outcome
  | .version isLong => .ok (.printing (versionLine isLong))
  | .analyze file mode asJson => analyzeOne surroundings file mode asJson
  | .scan request => scanAll surroundings request
  | .watch request =>
    (watchOf surroundings.disk request).map fun watch => .noting 0 watch.readyLine
  | .serve mode color => .ok (serveAll surroundings mode color)

def read (arguments : List String) : Except UsageError Command :=
  readWith Libraries.standard.readArguments arguments

def runArguments (surroundings : Surroundings) (arguments : List String) : Outcome :=
  match readWith surroundings.libraries.readArguments arguments with
  | .error error => .noting 2 ("error: " ++ error.message)
  | .ok command =>
    match run surroundings command with
    | .ok outcome => outcome
    | .error error => .failed error

end PromiseDetection.CommandLine

import PromiseDetection.Analysis.Mode
import PromiseDetection.CommandLine.Arguments
import PromiseDetection.Source.Extensions

/-!
The commands that a command line can ask for.

How much is logged, and how, can be told before and after the name of the command. It changes
nothing that a command prints as its result.
-/

namespace PromiseDetection

structure ScanRequest where
  directory : String
  extensions : String
  mode : Mode
  threads : Nat
  exclude? : Option String
  hidden : Bool
  noIgnore : Bool
  /-- Are reports printed as JSON? -/
  asJson : Bool
  /-- Are only the numbers of spans printed? -/
  onlyCounts : Bool

structure WatchRequest where
  directory : String
  extensions : String
  mode : Mode
  /-- The milliseconds without a change after which a batch is handed out. -/
  pause : Nat

inductive Command where
  | version (isLong : Bool)
  | analyze (file : String) (mode : Mode) (asJson : Bool)
  | scan (request : ScanRequest)
  | watch (request : WatchRequest)
  | serve (mode : Mode) (color : String)

def Command.paths : Command → List Path
  | .analyze file _ _ => [⟨file⟩]
  | .scan request => [⟨request.directory⟩]
  | .watch request => [⟨request.directory⟩]
  | .version _ | .serve _ _ => []

namespace CommandLine

def loggingRules : List OptionRule :=
  [.valued "log-level" none, .switch "log-json" none]

def leadingRules : List OptionRule :=
  { OptionRule.switch "version" (some 'V') with isFinal := true } :: loggingRules

def modeRule : OptionRule := .valued "mode" (some 'm')

def folderRules : List OptionRule :=
  [.valued "dir" (some 'd'), .valued "ext" (some 'e'), modeRule]

def analyzeRules : List OptionRule := modeRule :: .switch "json" none :: loggingRules

def scanRules : List OptionRule :=
  folderRules ++
    [.valued "threads" (some 't'), .valued "exclude" none, .switch "hidden" none,
      .switch "no-ignore" none, .switch "json" none, .switch "count" (some 'c')] ++
    loggingRules

def watchRules : List OptionRule :=
  folderRules ++ [.valued "debounce-ms" none] ++ loggingRules

def serveRules : List OptionRule := [modeRule, .valued "color" none] ++ loggingRules

def standardColor : String := "#c586c0"

def modeOf (given : Given) : Except UsageError Mode :=
  match given.value? "mode" with
  | none => .ok Mode.standard
  | some written => (Mode.parse written).mapError fun _ => .invalidValue "mode" written

/-- Reads a number of at most 64 bits in decimal digits, perhaps with a plus sign. -/
def natural? (written : String) : Option Nat :=
  let digits :=
    match written.toList with
    | '+' :: rest => rest
    | digits => digits
  if digits.isEmpty || !digits.all Char.isDigit then none
  else
    let value := digits.foldl (fun value digit => value * 10 + (digit.toNat - 48)) 0
    if value < Nat.pow 2 64 then some value else none

def naturalOf (given : Given) (name : String) (standard : Nat) : Except UsageError Nat :=
  match given.value? name with
  | none => .ok standard
  | some written =>
    match natural? written with
    | some value => .ok value
    | none => .error (.invalidValue name written)

def noWords (given : Given) : Except UsageError Unit :=
  match given.words with
  | [] => .ok ()
  | word :: _ => .error (.unexpectedWord word)

def analyzeCommand (given : Given) : Except UsageError Command := do
  let mode ← modeOf given
  match given.words with
  | [] => .error (.missingWord "FILE")
  | [file] => return .analyze file mode (given.hasSwitch "json")
  | _ :: word :: _ => .error (.unexpectedWord word)

def scanCommand (given : Given) : Except UsageError Command := do
  let mode ← modeOf given
  let threads ← naturalOf given "threads" 0
  noWords given
  return .scan
    { directory := given.valueOr "dir" "."
      extensions := given.valueOr "ext" Extensions.standard
      mode, threads
      exclude? := given.value? "exclude"
      hidden := given.hasSwitch "hidden"
      noIgnore := given.hasSwitch "no-ignore"
      asJson := given.hasSwitch "json"
      onlyCounts := given.hasSwitch "count" }

def watchCommand (given : Given) : Except UsageError Command := do
  let mode ← modeOf given
  let pause ← naturalOf given "debounce-ms" 300
  noWords given
  return .watch
    { directory := given.valueOr "dir" "."
      extensions := given.valueOr "ext" Extensions.standard
      mode, pause }

def serveCommand (given : Given) : Except UsageError Command := do
  let mode ← modeOf given
  noWords given
  return .serve mode (given.valueOr "color" standardColor)

def readCommand (reader : ArgumentReader) (rules : List OptionRule)
    (command : Given → Except UsageError Command) (arguments : List String) :
    Except UsageError Command := do
  let (given, _) ← reader rules false arguments
  command given

def readWith (reader : ArgumentReader) (arguments : List String) : Except UsageError Command := do
  let (given, stop) ← reader leadingRules true arguments
  match stop with
  | .settled byLetter => return .version !byLetter
  | .finished =>
    noWords given
    .error .missingCommand
  | .word name rest =>
    match name with
    | "analyze" => readCommand reader analyzeRules analyzeCommand rest
    | "scan" => readCommand reader scanRules scanCommand rest
    | "watch" => readCommand reader watchRules watchCommand rest
    | "serve" => readCommand reader serveRules serveCommand rest
    | _ => .error (.unknownCommand name)

end CommandLine

end PromiseDetection

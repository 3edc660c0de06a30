/-!
Arguments of a command line: options, switches and words.
-/

namespace PromiseDetection.CommandLine

structure OptionRule where
  name : String
  letter? : Option Char
  takesValue : Bool
  /-- Does the option settle the command, whatever comes after it? -/
  isFinal : Bool

def OptionRule.switch (name : String) (letter? : Option Char) : OptionRule :=
  { name, letter?, takesValue := false, isFinal := false }

def OptionRule.valued (name : String) (letter? : Option Char) : OptionRule :=
  { name, letter?, takesValue := true, isFinal := false }

inductive UsageError where
  | unknownOption (written : String)
  | missingValue (name : String)
  | unexpectedValue (name : String)
  | repeatedOption (name : String)
  | invalidValue (name value : String)
  | missingWord (name : String)
  | unexpectedWord (word : String)
  | missingCommand
  | unknownCommand (word : String)
  deriving DecidableEq, Repr

namespace UsageError

def message : UsageError → String
  | .unknownOption written => "unexpected argument '" ++ written ++ "' found"
  | .missingValue name => "a value is required for '--" ++ name ++ "' but none was supplied"
  | .unexpectedValue name => "unexpected value for '--" ++ name ++ "' found"
  | .repeatedOption name => "the argument '--" ++ name ++ "' cannot be used multiple times"
  | .invalidValue name value => "invalid value '" ++ value ++ "' for '--" ++ name ++ "'"
  | .missingWord name => "the argument '" ++ name ++ "' was not provided"
  | .unexpectedWord word => "unexpected argument '" ++ word ++ "' found"
  | .missingCommand => "a command is required"
  | .unknownCommand word => "unrecognized command '" ++ word ++ "'"

end UsageError

structure Given where
  values : List (String × String)
  switches : List String
  words : List String

namespace Given

def empty : Given := { values := [], switches := [], words := [] }

def hasSwitch (given : Given) (name : String) : Bool := given.switches.contains name

def value? (given : Given) (name : String) : Option String := given.values.lookup name

def valueOr (given : Given) (name standard : String) : String :=
  (given.value? name).getD standard

end Given

/-- Where reading stopped: at the end, at a word, or because the command was settled. -/
inductive Stop where
  | finished
  | word (word : String) (rest : List String)
  | settled (byLetter : Bool)

/-- Reads arguments, up to the first word if it is told to stop there. -/
abbrev ArgumentReader :=
  List OptionRule → (upToWord : Bool) → List String → Except UsageError (Given × Stop)

end PromiseDetection.CommandLine

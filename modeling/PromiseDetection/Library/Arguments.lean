import PromiseDetection.CommandLine.Arguments

/-!
Reading the arguments of a command line.

An option has a long name and perhaps a letter. Its value stands after an equals sign, right after
the letter, or in the next argument, which then must not look like an option itself. Letters may be
bundled behind one dash. After two dashes alone everything is a word. Each option may be there once.
-/

namespace PromiseDetection.CommandLine

namespace Given

def addValue (given : Given) (name value : String) : Except UsageError Given :=
  if (given.value? name).isSome then .error (.repeatedOption name)
  else .ok { given with values := given.values ++ [(name, value)] }

def addSwitch (given : Given) (name : String) : Except UsageError Given :=
  if given.hasSwitch name then .error (.repeatedOption name)
  else .ok { given with switches := given.switches ++ [name] }

end Given

/-- Does an argument look like an option? A dash alone does not. -/
def looksLikeOption (argument : String) : Bool :=
  match argument.toList with
  | '-' :: _ :: _ => true
  | _ => false

def splitValue (written : List Char) : String × Option String :=
  let name := String.ofList (written.takeWhile (· ≠ '='))
  match written.dropWhile (· ≠ '=') with
  | [] => (name, none)
  | _ :: value => (name, some (String.ofList value))

/-- A value right after a letter, perhaps with an equals sign before it. -/
def attachedValue? : List Char → Option String
  | [] => none
  | '=' :: value => some (String.ofList value)
  | value => some (String.ofList value)

inductive Progress where
  | next (given : Given)
  /-- At the next argument, which is the value of an option. -/
  | value (name : String) (given : Given)
  /-- Nowhere: the command is settled, by a letter or by a long name. -/
  | settled (byLetter : Bool)

def takeOption (given : Given) (rule : OptionRule) (byLetter : Bool)
    (attached? : Option String) : Except UsageError Progress :=
  if rule.takesValue then
    match attached? with
    | some value => (given.addValue rule.name value).map .next
    | none => .ok (.value rule.name given)
  else if attached?.isSome then .error (.unexpectedValue rule.name)
  else if rule.isFinal then .ok (.settled byLetter)
  else (given.addSwitch rule.name).map .next

def readLetters (rules : List OptionRule) (given : Given) :
    List Char → Except UsageError Progress
  | [] => .ok (.next given)
  | letter :: rest =>
    match rules.find? fun rule => rule.letter? == some letter with
    | none => .error (.unknownOption ("-" ++ String.singleton letter))
    | some rule =>
      if rule.takesValue then takeOption given rule true (attachedValue? rest)
      else
        match takeOption given rule true none with
        | .ok (.next given) => readLetters rules given rest
        | other => other

def readOption (rules : List OptionRule) (given : Given) (argument : String) :
    Except UsageError Progress :=
  match argument.toList with
  | '-' :: '-' :: written =>
    let (name, attached?) := splitValue written
    match rules.find? fun rule => rule.name == name with
    | none => .error (.unknownOption argument)
    | some rule => takeOption given rule false attached?
  | '-' :: letters => readLetters rules given letters
  | _ => .error (.unknownOption argument)

def readOnto (rules : List OptionRule) (upToWord : Bool) (given : Given) :
    List String → Except UsageError (Given × Stop)
  | [] => .ok (given, .finished)
  | argument :: rest =>
    if argument = "--" then .ok ({ given with words := given.words ++ rest }, .finished)
    else if looksLikeOption argument then
      match readOption rules given argument with
      | .error error => .error error
      | .ok (.settled byLetter) => .ok (given, .settled byLetter)
      | .ok (.next given) => readOnto rules upToWord given rest
      | .ok (.value name given) =>
        match rest with
        | [] => .error (.missingValue name)
        | value :: rest =>
          if looksLikeOption value then .error (.missingValue name)
          else
            match given.addValue name value with
            | .error error => .error error
            | .ok given => readOnto rules upToWord given rest
    else if upToWord then .ok (given, .word argument rest)
    else readOnto rules upToWord { given with words := given.words ++ [argument] } rest

def readArguments : ArgumentReader := fun rules upToWord => readOnto rules upToWord .empty

end PromiseDetection.CommandLine

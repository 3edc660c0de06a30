/-!
Patterns that pick out texts.

A pattern is matched by taking its derivative by one character after the other: what is left to
match after the character. Anchors match at the ends of the text only, so both matching nothing and
the derivative depend on whether the text has just begun.

In a written pattern most characters stand for themselves. A dot stands for any character, a caret
and a dollar for the two ends of the text, and a backslash takes the meaning from the sign after it.
Parentheses group, a bar separates alternatives, and a star, a plus or a question mark repeats what
is before it. Sets of characters and counted repetitions are not part of the language.
-/

namespace PromiseDetection

inductive Pattern where
  | nothing
  | blank
  | literal (character : Char)
  /-- Any character but a line feed. -/
  | anyCharacter
  | textStart
  | textEnd
  | sequence (first second : Pattern)
  | either (first second : Pattern)
  | repeated (inner : Pattern)
  deriving DecidableEq, Repr

namespace Pattern

def andThen (first second : Pattern) : Pattern :=
  if first = .nothing ∨ second = .nothing then .nothing
  else if first = .blank then second
  else if second = .blank then first
  else .sequence first second

def orElse (first second : Pattern) : Pattern :=
  if first = .nothing then second
  else if second = .nothing ∨ first = second then first
  else .either first second

def matchesEmpty (atStart atEnd : Bool) : Pattern → Bool
  | .nothing | .literal _ | .anyCharacter => false
  | .blank | .repeated _ => true
  | .textStart => atStart
  | .textEnd => atEnd
  | .sequence first second => first.matchesEmpty atStart atEnd && second.matchesEmpty atStart atEnd
  | .either first second => first.matchesEmpty atStart atEnd || second.matchesEmpty atStart atEnd

/-- What is left to match after a character. -/
def derivative (atStart : Bool) (character : Char) : Pattern → Pattern
  | .nothing | .blank | .textStart | .textEnd => .nothing
  | .literal expected => if character = expected then .blank else .nothing
  | .anyCharacter => if character = '\n' then .nothing else .blank
  | .sequence first second =>
    let taken := andThen (first.derivative atStart character) second
    if first.matchesEmpty atStart false then orElse taken (second.derivative atStart character)
    else taken
  | .either first second =>
    orElse (first.derivative atStart character) (second.derivative atStart character)
  | .repeated inner => andThen (inner.derivative atStart character) (.repeated inner)

/-- Does a part of a text match, when `rest` is left to match from here on and a match of the whole
pattern may begin at each later place? -/
def occursFrom (whole : Pattern) : Bool → Pattern → List Char → Bool
  | atStart, rest, [] => rest.matchesEmpty atStart true
  | atStart, rest, character :: characters =>
    rest.matchesEmpty atStart false ||
      occursFrom whole false (orElse (rest.derivative atStart character) whole) characters

def occursIn (pattern : Pattern) (text : String) : Bool :=
  occursFrom pattern true pattern text.toList

inductive Fault where
  | unclosedGroup
  | unopenedGroup
  | nothingToRepeat
  | openEscape
  | unknownEscape
  | unclosedSet
  | countedRepetition
  deriving DecidableEq, Repr

/-- A group that is being read: the alternatives before the last bar, and what has been read since,
the last part first. -/
structure Group where
  alternatives : Pattern
  parts : List Pattern

namespace Group

def empty : Group := { alternatives := .nothing, parts := [] }

def alternative (group : Group) : Pattern :=
  group.parts.foldl (fun later part => andThen part later) .blank

def pattern (group : Group) : Pattern :=
  match group.alternatives with
  | .nothing => group.alternative
  | before => .either before group.alternative

def add (group : Group) (part : Pattern) : Group := { group with parts := part :: group.parts }

def bar (group : Group) : Group := { alternatives := group.pattern, parts := [] }

def repeatLast (group : Group) (repetition : Pattern → Pattern) : Except Fault Group :=
  match group.parts with
  | [] => .error .nothingToRepeat
  | last :: parts => .ok { group with parts := repetition last :: parts }

end Group

def isSign (character : Char) : Bool :=
  33 ≤ character.toNat && character.toNat < 127 && !character.isAlphanum

def repetition? : Char → Option (Pattern → Pattern)
  | '*' => some .repeated
  | '+' => some fun inner => andThen inner (.repeated inner)
  | '?' => some fun inner => orElse inner .blank
  | _ => none

/-- Reads the rest of a written pattern inside some open groups. -/
def readWithin (group : Group) (outer : List Group) : List Char → Except Fault Pattern
  | [] => if outer.isEmpty then .ok group.pattern else .error .unclosedGroup
  | ['\\'] => .error .openEscape
  | '\\' :: character :: rest =>
    if isSign character then readWithin (group.add (.literal character)) outer rest
    else .error .unknownEscape
  | character :: rest =>
    match repetition? character with
    | some repetition =>
      match group.repeatLast repetition with
      | .error fault => .error fault
      | .ok group => readWithin group outer rest
    | none =>
      match character with
      | '(' => readWithin .empty (group :: outer) rest
      | ')' =>
        match outer with
        | [] => .error .unopenedGroup
        | around :: outer => readWithin (around.add group.pattern) outer rest
      | '|' => readWithin group.bar outer rest
      | '.' => readWithin (group.add .anyCharacter) outer rest
      | '^' => readWithin (group.add .textStart) outer rest
      | '$' => readWithin (group.add .textEnd) outer rest
      | '[' => .error .unclosedSet
      | '\x7b' => .error .countedRepetition
      | other => readWithin (group.add (.literal other)) outer rest

def read (written : String) : Except Fault (String → Bool) :=
  (readWithin .empty [] written.toList).map occursIn

end Pattern

end PromiseDetection

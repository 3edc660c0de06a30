import PromiseDetection.Library.Json.Fault

/-!
Reading JSON texts.

A reader goes over the characters of a text from left to right and stops at the first fault. A
fault in a character that was only looked at is placed behind that character, like a fault in a
character that was taken.

Values are read for one of two purposes: to be kept, or to be skipped. A skipped value may nest as
deep as it likes, and its escapes need not make up characters.
-/

namespace PromiseDetection.Json

structure Cursor where
  rest : List Char
  mark : Mark

namespace Cursor

def ofText (text : String) : Cursor := { rest := text.toList, mark := { line := 1, column := 0 } }

def behindNext (cursor : Cursor) : Mark :=
  match cursor.rest with
  | [] => cursor.mark
  | character :: _ =>
    if character = '\n' then { line := cursor.mark.line + 1, column := 0 }
    else { cursor.mark with column := cursor.mark.column + 1 }

def next (cursor : Cursor) : Cursor :=
  match cursor.rest with
  | [] => cursor
  | character :: rest =>
    { rest
      mark :=
        if character = '\n' then { line := cursor.mark.line + 1, column := 0 }
        else { cursor.mark with column := cursor.mark.column + character.utf8Size } }

end Cursor

abbrev Reader := StateT Cursor (Except ReadError)

inductive Purpose where
  | keep
  | skip
  deriving DecidableEq, Repr

def Purpose.endOfNumber : Purpose → Fault
  | .keep => .endInValue
  | .skip => .invalidNumber

def Purpose.afterComma : Purpose → Fault
  | .keep => .trailingComma
  | .skip => .expectedValue

def Purpose.endAfterComma : Purpose → Fault
  | .keep => .endInValue
  | .skip => .endInObject

/-- Values that are kept nest fewer levels than this. -/
def depthLimit : Nat := 128

def isSeparator (character : Char) : Bool :=
  character = ' ' || character = '\n' || character = '\t' || character = '\r'

def hexValue? (character : Char) : Option Nat :=
  if '0' ≤ character ∧ character ≤ '9' then some (character.toNat - 48)
  else if 'a' ≤ character ∧ character ≤ 'f' then some (character.toNat - 87)
  else if 'A' ≤ character ∧ character ≤ 'F' then some (character.toNat - 55)
  else none

def hexCode? (first second third fourth : Char) : Option Nat := do
  let first ← hexValue? first
  let second ← hexValue? second
  let third ← hexValue? third
  let fourth ← hexValue? fourth
  pure (first * 4096 + second * 256 + third * 16 + fourth)

def simpleEscape? (letter : Char) : Option Char :=
  if letter = '\x22' ∨ letter = '\\' ∨ letter = '/' then some letter
  else if letter = 'b' then some (Char.ofNat 8)
  else if letter = 'f' then some (Char.ofNat 12)
  else if letter = 'n' then some '\n'
  else if letter = 'r' then some '\r'
  else if letter = 't' then some '\t'
  else none

def isLeadingSurrogate (code : Nat) : Bool := 0xD800 ≤ code && code ≤ 0xDBFF

def isTrailingSurrogate (code : Nat) : Bool := 0xDC00 ≤ code && code ≤ 0xDFFF

def pairCharacter (leading trailing : Nat) : Char :=
  Char.ofNat (0x10000 + (leading - 0xD800) * 0x400 + (trailing - 0xDC00))

def byteCount (characters : List Char) : Nat :=
  characters.foldl (fun total character => total + character.utf8Size) 0

/-- The fault of an escape by code that is no four hexadecimal digits, and the bytes before its
place. -/
def codeFault (rest : List Char) : Fault × Nat :=
  if 4 ≤ byteCount (rest.take 4) then (.invalidEscape, 4) else (.endInString, byteCount rest)

/-- What is left to read of a string after its opening quote: its characters, the rest behind the
closing quote, and the bytes up to there. -/
def stringTail (purpose : Purpose) (taken : Nat) :
    List Char → Except (Fault × Nat) (List Char × List Char × Nat)
  | [] => .error (.endInString, taken)
  | '\\' :: 'u' :: first :: second :: third :: fourth :: rest =>
    match hexCode? first second third fourth with
    | none =>
      let (fault, more) := codeFault (first :: second :: third :: fourth :: rest)
      .error (fault, taken + 2 + more)
    | some code =>
      let plain (character : Char) :=
        (stringTail purpose (taken + 6) rest).map fun tail => (character :: tail.1, tail.2)
      if isTrailingSurrogate code then
        if purpose = .skip then plain ' ' else .error (.loneSurrogate, taken + 6)
      else if isLeadingSurrogate code then
        if purpose = .skip then plain ' '
        else
          match rest with
          | '\\' :: 'u' :: first :: second :: third :: fourth :: rest =>
            match hexCode? first second third fourth with
            | none =>
              let (fault, more) := codeFault (first :: second :: third :: fourth :: rest)
              .error (fault, taken + 8 + more)
            | some trailing =>
              if isTrailingSurrogate trailing then
                (stringTail purpose (taken + 12) rest).map fun tail =>
                  (pairCharacter code trailing :: tail.1, tail.2)
              else .error (.loneSurrogate, taken + 12)
          | '\\' :: 'u' :: rest =>
            let (fault, more) := codeFault rest
            .error (fault, taken + 8 + more)
          | ['\\'] => .error (.endInString, taken + 7)
          | '\\' :: _ => .error (.halfSurrogatePair, taken + 8)
          | [] => .error (.endInString, taken + 6)
          | _ :: _ => .error (.halfSurrogatePair, taken + 7)
      else plain (Char.ofNat code)
  | '\\' :: 'u' :: rest =>
    let (fault, more) := codeFault rest
    .error (fault, taken + 2 + more)
  | ['\\'] => .error (.endInString, taken + 1)
  | '\\' :: letter :: rest =>
    match simpleEscape? letter with
    | none => .error (.invalidEscape, taken + 2)
    | some character =>
      (stringTail purpose (taken + 2) rest).map fun tail => (character :: tail.1, tail.2)
  | character :: rest =>
    if character = '\x22' then .ok ([], rest, taken + 1)
    else if character.toNat < 32 then
      .error (.controlCharacter, if purpose = .keep then taken + 1 else taken)
    else
      (stringTail purpose (taken + character.utf8Size) rest).map fun tail =>
        (character :: tail.1, tail.2)

namespace Reader

def failHere {α : Type} (fault : Fault) : Reader α := do
  throw { fault, mark := (← get).mark }

def failNext {α : Type} (fault : Fault) : Reader α := do
  throw { fault, mark := (← get).behindNext }

def peek : Reader (Option Char) := do return (← get).rest.head?

def advance : Reader Unit := modify Cursor.next

def takeWhile (test : Char → Bool) : Reader (List Char) := do
  let taken := (← get).rest.takeWhile test
  modify fun cursor => taken.foldl (fun cursor _ => cursor.next) cursor
  return taken

def peekPart : Reader (Option Char) := do
  let _ ← takeWhile isSeparator
  peek

def word : List Char → Reader Unit
  | [] => pure ()
  | expected :: rest => do
    match ← peek with
    | none => failHere .endInValue
    | some character =>
      if character = expected then
        advance
        word rest
      else failNext .expectedWord

def quotedText (purpose : Purpose) : Reader String := do
  advance
  let start ← get
  match stringTail purpose 0 start.rest with
  | .error (fault, taken) =>
    throw { fault, mark := { start.mark with column := start.mark.column + taken } }
  | .ok (characters, rest, taken) =>
    set { rest, mark := { start.mark with column := start.mark.column + taken } : Cursor }
    return String.ofList characters

def digitsValue (digits : List Char) : Nat :=
  digits.foldl (fun value digit => value * 10 + (digit.toNat - 48)) 0

def exponentPart (purpose : Purpose) : Reader (Option Int) := do
  let next ← peek
  if next = some 'e' ∨ next = some 'E' then
    advance
    let sign ← peek
    if sign = some '+' ∨ sign = some '-' then advance
    match ← peek with
    | none => failHere purpose.endOfNumber
    | some digit =>
      if digit.isDigit then
        let digits ← takeWhile Char.isDigit
        let value : Int := digitsValue digits
        return some (if sign = some '-' then -value else value)
      else failNext .invalidNumber
  else return none

def fractionPart (purpose : Purpose) : Reader (Option (List Char)) := do
  if (← peek) = some '.' then
    advance
    let digits ← takeWhile Char.isDigit
    if digits.isEmpty then
      match ← peek with
      | none => failHere purpose.endOfNumber
      | some _ => failNext .invalidNumber
    else return some digits
  else return none

/-- The digits before the point: a single zero, or digits that begin with another one. -/
def wholePart (purpose : Purpose) : Reader (List Char) := do
  match ← peek with
  | none => failHere purpose.endOfNumber
  | some first =>
    if first = '0' then
      advance
      match ← peek with
      | none => return ['0']
      | some second => if second.isDigit then failNext .invalidNumber else return ['0']
    else if first.isDigit then takeWhile Char.isDigit
    else failNext .invalidNumber

def digitValues (digits : List Char) : List Nat := digits.map fun digit => digit.toNat - 48

/-- A number. The size of a number that is skipped does not matter. -/
def number (purpose : Purpose) : Reader Number := do
  let negative := (← peek) = some '-'
  if negative then advance
  let before ← wholePart purpose
  let after? ← fractionPart purpose
  let exponent? ← exponentPart purpose
  match Number.ofParts? negative (digitValues before) (after?.map digitValues) exponent? with
  | some number => return number
  | none => if purpose = .keep then failHere .numberOutOfRange else return .whole 0

def scalar (purpose : Purpose) (first : Char) : Reader Value := do
  if first = 'n' then
    advance
    word "ull".toList
    return .null
  else if first = 't' then
    advance
    word "rue".toList
    return .bool true
  else if first = 'f' then
    advance
    word "alse".toList
    return .bool false
  else if first = '-' ∨ first.isDigit then return .number (← number purpose)
  else if first = '\x22' then return .string (← quotedText purpose)
  else failNext .expectedValue

/-- Is there another item in the list? If not, the end of the list is taken. -/
def nextItem (purpose : Purpose) (isFirst : Bool) : Reader Bool := do
  match ← peekPart with
  | none => failNext .endInList
  | some character =>
    if character = ']' then
      advance
      return false
    else if isFirst then return true
    else if character = ',' then
      advance
      match ← peekPart with
      | none => failNext .endInValue
      | some next =>
        if next = ']' then failNext purpose.afterComma else return true
    else failNext .expectedItemEnd

/-- The name of the next member, if there is one. If not, the end of the object is taken. -/
def nextName (purpose : Purpose) (isFirst : Bool) : Reader (Option String) := do
  match ← peekPart with
  | none => failNext .endInObject
  | some character =>
    if character = '\x7d' then
      advance
      return none
    else if isFirst then
      if character = '\x22' then return some (← quotedText purpose)
      else failNext .keyNotString
    else if character = ',' then
      advance
      match ← peekPart with
      | none => failNext purpose.endAfterComma
      | some next =>
        if next = '\x22' then return some (← quotedText purpose)
        else if next = '\x7d' ∧ purpose = .keep then failNext .trailingComma
        else failNext .keyNotString
    else failNext .expectedMemberEnd

def colon : Reader Unit := do
  match ← peekPart with
  | none => failNext .endInObject
  | some character => if character = ':' then advance else failNext .expectedColon

def enter (purpose : Purpose) (depth : Nat) : Reader Nat := do
  if purpose = .keep ∧ depth ≤ 1 then failNext .tooDeep
  else
    advance
    return depth - 1

mutual

/-- The value that comes next, with this many levels left below. Every call takes at least one
character or is followed by one that does, so twice the length of the text bounds their number. -/
def valueWithin (purpose : Purpose) : Nat → Nat → Reader Value
  | 0, _ => failHere .tooDeep
  | bound + 1, depth => do
    match ← peekPart with
    | none => failNext .endInValue
    | some first =>
      if first = '[' then
        let inner ← enter purpose depth
        return .array (← itemsWithin purpose bound inner true)
      else if first = '\x7b' then
        let inner ← enter purpose depth
        return .ofMembers (← membersWithin purpose bound inner true)
      else scalar purpose first

def itemsWithin (purpose : Purpose) : Nat → Nat → Bool → Reader (List Value)
  | 0, _, _ => failHere .tooDeep
  | bound + 1, depth, isFirst => do
    if ← nextItem purpose isFirst then
      let item ← valueWithin purpose bound depth
      return item :: (← itemsWithin purpose bound depth false)
    else return []

def membersWithin (purpose : Purpose) : Nat → Nat → Bool → Reader (List (String × Value))
  | 0, _, _ => failHere .tooDeep
  | bound + 1, depth, isFirst => do
    match ← nextName purpose isFirst with
    | none => return []
    | some name =>
      colon
      let value ← valueWithin purpose bound depth
      return (name, value) :: (← membersWithin purpose bound depth false)

end

def value (purpose : Purpose) (depth : Nat) : Reader Value := do
  valueWithin purpose (2 * (← get).rest.length + 2) depth

/-- Nothing but separators may come next. -/
def finish : Reader Unit := do
  match ← peekPart with
  | none => pure ()
  | some _ => failNext .trailingCharacters

def onText {α : Type} (reader : Reader α) (text : String) : Except ReadError α :=
  ((do
    let found ← reader
    finish
    pure found : Reader α).run (Cursor.ofText text)).map (·.1)

end Reader

def read (text : String) : Except ReadError Value :=
  (Reader.value .keep depthLimit).onText text

end PromiseDetection.Json

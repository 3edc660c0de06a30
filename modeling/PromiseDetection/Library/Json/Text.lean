import PromiseDetection.Json.Value

/-!
The compact texts of JSON values.

The text of a floating-point number shows its shortest digits, around a point where that needs few
zeros, and before an exponent otherwise. The members of an object are written in the order they have
in the value.
-/

namespace PromiseDetection.Json

namespace Number

/-- Places before the point up to this count are written without an exponent. -/
def widestWhole : Nat := 16

/-- Zeros between the point and the first digit from this count on are written as an exponent. -/
def mostZeros : Nat := 5

/-- The text of digits without zeros at their end, whose first digit stands `places` places before
the point. -/
def decimalText (digits : List Char) (places : Int) : String :=
  let count := digits.length
  if 0 < places ∧ places ≤ widestWhole then
    let before := places.toNat
    if count ≤ before then
      String.ofList (digits ++ List.replicate (before - count) '0') ++ ".0"
    else String.ofList (digits.take before) ++ "." ++ String.ofList (digits.drop before)
  else if places ≤ 0 ∧ -places < mostZeros then
    "0." ++ String.ofList (List.replicate (-places).toNat '0' ++ digits)
  else
    let point := if count = 1 then "" else "."
    String.ofList (digits.take 1) ++ point ++ String.ofList (digits.drop 1) ++ "e" ++
      toString (places - 1)

def text : Number → String
  | .whole value => toString value
  | .float negative size =>
    let sign := if negative then "-" else ""
    let (digits, exponent) := size.shortest
    let written := (toString digits).toList
    let significant := (written.reverse.dropWhile (· = '0')).reverse
    if significant.isEmpty then sign ++ "0.0"
    else sign ++ decimalText significant (written.length + exponent)

end Number

def hexDigit (digit : Nat) : Char :=
  if digit < 10 then Char.ofNat (48 + digit) else Char.ofNat (87 + digit)

/-- How a character is written inside a string: quotes, backslashes and control characters are
escaped. -/
def escaped (character : Char) : List Char :=
  if character = '\x22' then ['\\', '\x22']
  else if character = '\\' then ['\\', '\\']
  else if character = '\n' then ['\\', 'n']
  else if character = '\r' then ['\\', 'r']
  else if character = '\t' then ['\\', 't']
  else if character.toNat = 8 then ['\\', 'b']
  else if character.toNat = 12 then ['\\', 'f']
  else if character.toNat < 32 then
    ['\\', 'u', '0', '0', hexDigit (character.toNat / 16), hexDigit (character.toNat % 16)]
  else [character]

def stringText (text : String) : List Char :=
  '\x22' :: (text.toList.flatMap escaped ++ ['\x22'])

namespace Value

mutual

def characters : Value → List Char
  | .null => "null".toList
  | .bool true => "true".toList
  | .bool false => "false".toList
  | .number value => value.text.toList
  | .string text => stringText text
  | .array items => '[' :: (itemCharacters items ++ [']'])
  | .object members => '\x7b' :: (memberCharacters members ++ ['\x7d'])

def itemCharacters : List Value → List Char
  | [] => []
  | [item] => item.characters
  | item :: rest => item.characters ++ ',' :: itemCharacters rest

def memberCharacters : List (String × Value) → List Char
  | [] => []
  | [(name, value)] => stringText name ++ ':' :: value.characters
  | (name, value) :: rest =>
    stringText name ++ ':' :: (value.characters ++ ',' :: memberCharacters rest)

end

def text (value : Value) : String := String.ofList value.characters

end Value

end PromiseDetection.Json

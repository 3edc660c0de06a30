/-!
Lines and columns of byte offsets.
-/

namespace PromiseDetection.Text

/-- The characters before a byte offset, if the offset is a character boundary. -/
def charactersBefore? : List Char → Nat → Option (List Char)
  | _, 0 => some []
  | [], _ + 1 => none
  | character :: rest, offset + 1 =>
    if character.utf8Size ≤ offset + 1 then
      (charactersBefore? rest (offset + 1 - character.utf8Size)).map (character :: ·)
    else none

/-- A place in a text as people count it: lines and columns start at 1, and a column is a number of
characters. -/
structure Position where
  line : Nat
  column : Nat
  deriving Repr, DecidableEq

namespace Position

def ofCharacters (before : List Char) : Position where
  line := before.count '\n' + 1
  column := (before.reverse.takeWhile (· ≠ '\n')).length + 1

/-- The place of a byte offset. An offset that is no character boundary of the text stands for the
end of the text. -/
def ofOffset (text : String) (offset : Nat) : Position :=
  ofCharacters ((charactersBefore? text.toList offset).getD text.toList)

end Position

end PromiseDetection.Text

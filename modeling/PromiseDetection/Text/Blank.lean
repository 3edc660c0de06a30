/-!
Blank characters, as the Unicode standard counts them, and texts without blanks at their ends.
-/

namespace PromiseDetection.Text

/-- The characters with the property White_Space. -/
def isBlank (character : Char) : Bool :=
  let code := character.toNat
  (9 ≤ code && code ≤ 13) || code == 32 || code == 0x85 || code == 0xA0 || code == 0x1680 ||
    (0x2000 ≤ code && code ≤ 0x200A) || code == 0x2028 || code == 0x2029 || code == 0x202F ||
    code == 0x205F || code == 0x3000

/-- Characters without those at both ends that satisfy a test. -/
def strip (test : Char → Bool) (characters : List Char) : List Char :=
  ((characters.dropWhile test).reverse.dropWhile test).reverse

def trim (text : String) : String := String.ofList (strip isBlank text.toList)

end PromiseDetection.Text

import PromiseDetection.Text.CaseTable

/-!
The lower case of a text.

Every letter is replaced by its own lower case, except that a capital sigma becomes the sigma for
the end of a word where it ends one.
-/

namespace PromiseDetection.Text

def inRanges (ranges : List (Nat × Nat)) (code : Nat) : Bool :=
  ranges.any fun range => range.1 ≤ code && code ≤ range.2

def isCased (character : Char) : Bool := inRanges casedRanges character.toNat

def isCaseIgnorable (character : Char) : Bool := inRanges caseIgnorableRanges character.toNat

def lowercaseLetter (letter : Char) : List Char :=
  let code := letter.toNat
  if code = 0x130 then ['i', '\u0307']
  else
    match lowercaseRuns.find? fun run =>
      run.first ≤ code && code ≤ run.last && (code - run.first) % run.step == 0 with
    | some run => [Char.ofNat (Int.toNat (code + run.distance))]
    | none => [letter]

/-- Is the first character with any bearing on case one that has case? -/
def meetsCased (characters : List Char) : Bool :=
  match characters.dropWhile isCaseIgnorable with
  | first :: _ => isCased first
  | [] => false

/-- The lower case of the characters after some others, which are given last one first. -/
def lowercaseAfter (before : List Char) : List Char → List Char
  | [] => []
  | letter :: rest =>
    let lower :=
      if letter = 'Σ' then
        if meetsCased before && !meetsCased rest then ['ς'] else ['σ']
      else lowercaseLetter letter
    lower ++ lowercaseAfter (letter :: before) rest

def lowercase (text : String) : String := String.ofList (lowercaseAfter [] text.toList)

end PromiseDetection.Text

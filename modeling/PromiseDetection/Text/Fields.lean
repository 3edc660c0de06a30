/-!
Splitting a text at a separator, and small operations on characters.
-/

namespace PromiseDetection.Text

/-- The pieces between separators; there is always one more piece than separators. -/
def splitAt (separator : Char) : List Char → List (List Char)
  | [] => [[]]
  | character :: rest =>
    if character = separator then [] :: splitAt separator rest
    else
      match splitAt separator rest with
      | [] => [[character]]
      | piece :: others => (character :: piece) :: others

def fields (separator : Char) (text : String) : List String :=
  (splitAt separator text.toList).map String.ofList

def asciiLower (text : String) : String :=
  String.ofList (text.toList.map Char.toLower)

def startsWith (text first : String) : Bool := first.toList.isPrefixOf text.toList

/-- The rest of a text after a given beginning, or the whole text if it begins otherwise. -/
def dropStart (text first : String) : String :=
  if startsWith text first then String.ofList (text.toList.drop first.toList.length) else text

end PromiseDetection.Text

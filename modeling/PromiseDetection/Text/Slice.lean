/-!
Parts of a text given by byte offsets.
-/

namespace PromiseDetection.Text

/-- The text between two byte offsets. It is empty unless both offsets are character boundaries
inside the text. -/
def slice (text : String) (start stop : Nat) : String :=
  match text.pos? ⟨start⟩, text.pos? ⟨stop⟩ with
  | some first, some last => text.extract first last
  | _, _ => ""

end PromiseDetection.Text

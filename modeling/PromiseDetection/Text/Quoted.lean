/-!
Texts between double quotes, as messages show them.
-/

namespace PromiseDetection.Text

def hexDigits (code : Nat) : String := String.ofList (Nat.toDigits 16 code)

/-- How a character is shown inside quotes: what cannot be seen is shown by its code. -/
def shown (character : Char) : String :=
  let code := character.toNat
  if character = '\x22' then "\\\""
  else if character = '\\' then "\\\\"
  else if code = 0 then "\\0"
  else if character = '\t' then "\\t"
  else if character = '\n' then "\\n"
  else if character = '\r' then "\\r"
  else if code < 32 ∨ (127 ≤ code ∧ code < 160) then "\\u\x7b" ++ hexDigits code ++ "\x7d"
  else String.singleton character

def quoted (text : String) : String :=
  "\"" ++ String.join (text.toList.map shown) ++ "\""

end PromiseDetection.Text

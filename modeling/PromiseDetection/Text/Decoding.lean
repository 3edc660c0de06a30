/-!
Reading bytes as UTF-8, with a replacement character for what is not.

Each longest beginning of a character that cannot be continued becomes one replacement character,
and so does each byte that cannot begin a character.
-/

namespace PromiseDetection.Text

/-- The character that stands for bytes that are not UTF-8. -/
def replacement : Char := '\uFFFD'

def isContinuation (byte : UInt8) : Bool := 0x80 ≤ byte && byte ≤ 0xBF

/-- The number of bytes that follow a first byte, and the range of the byte right after it. -/
def follow? (first : UInt8) : Option (Nat × UInt8 × UInt8) :=
  if first < 0x80 then some (0, 0, 0)
  else if 0xC2 ≤ first && first ≤ 0xDF then some (1, 0x80, 0xBF)
  else if first == 0xE0 then some (2, 0xA0, 0xBF)
  else if first == 0xED then some (2, 0x80, 0x9F)
  else if 0xE1 ≤ first && first ≤ 0xEF then some (2, 0x80, 0xBF)
  else if first == 0xF0 then some (3, 0x90, 0xBF)
  else if 0xF1 ≤ first && first ≤ 0xF3 then some (3, 0x80, 0xBF)
  else if first == 0xF4 then some (3, 0x80, 0x8F)
  else none

def assemble (first : UInt8) (following : List UInt8) : Char :=
  let lead :=
    match following.length with
    | 0 => first.toNat
    | 1 => first.toNat % 32
    | 2 => first.toNat % 16
    | _ => first.toNat % 8
  Char.ofNat (following.foldl (fun code byte => code * 64 + byte.toNat % 64) lead)

def decodeLossy : List UInt8 → List Char
  | [] => []
  | first :: rest =>
    match follow? first with
    | none => replacement :: decodeLossy rest
    | some (0, _, _) => assemble first [] :: decodeLossy rest
    | some (count + 1, least, greatest) =>
      match rest with
      | [] => [replacement]
      | second :: rest₁ =>
        if !(least ≤ second && second ≤ greatest) then replacement :: decodeLossy (second :: rest₁)
        else if count = 0 then assemble first [second] :: decodeLossy rest₁
        else
          match rest₁ with
          | [] => [replacement]
          | third :: rest₂ =>
            if !isContinuation third then replacement :: decodeLossy (third :: rest₂)
            else if count = 1 then assemble first [second, third] :: decodeLossy rest₂
            else
              match rest₂ with
              | [] => [replacement]
              | fourth :: rest₃ =>
                if !isContinuation fourth then replacement :: decodeLossy (fourth :: rest₃)
                else assemble first [second, third, fourth] :: decodeLossy rest₃

/-- The text of some bytes, and whether any of them had to be replaced. -/
def ofBytes (bytes : ByteArray) : String × Bool :=
  match String.fromUTF8? bytes with
  | some text => (text, false)
  | none => (String.ofList (decodeLossy bytes.toList), true)

end PromiseDetection.Text

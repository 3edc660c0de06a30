import Mathlib.Data.List.Basic
import PromiseDetection.Text.Lines

/-!
Texts as bytes, and lines that survive being written and read back.

A byte below 128 stands for a character by itself wherever it occurs in a text, so there are line
ends among the bytes only where the text has them. A line without control characters is therefore
read back as it was written.
-/

namespace PromiseDetection.Text

variable {byte : UInt8}

theorem toList_loop (bytes : ByteArray) (index : Nat) (taken : List UInt8) :
    ByteArray.toList.loop bytes index taken = taken.reverse ++ bytes.data.toList.drop index := by
  fun_induction ByteArray.toList.loop bytes index taken with
  | case1 index taken within inductionHypothesis =>
    have bound : index < bytes.data.toList.length := by simpa using within
    rw [inductionHypothesis, List.drop_eq_getElem_cons bound]
    simp [ByteArray.get!, within]
  | case2 index taken beyond =>
    rw [List.drop_eq_nil_of_le (by simpa using Nat.le_of_not_lt beyond)]
    simp

theorem toList_bytes (bytes : ByteArray) : bytes.toList = bytes.data.toList := by
  simp [ByteArray.toList, toList_loop]

theorem toList_toUTF8 (text : String) :
    text.toUTF8.toList = text.toList.flatMap String.utf8EncodeChar := by
  rw [toList_bytes, String.toUTF8_eq_toByteArray, ← String.utf8Encode_toList, List.utf8Encode,
    List.toList_data_toByteArray]

theorem decodeLine?_toList_toUTF8 (text : String) : decodeLine? text.toUTF8.toList = some text := by
  have same : (⟨text.toUTF8.toList.toArray⟩ : ByteArray) = text.toByteArray := by
    rw [toList_bytes, String.toUTF8_eq_toByteArray]
  rw [decodeLine?, same, String.fromUTF8?, dif_pos text.isValidUTF8]
  rfl

theorem mem_utf8EncodeChar {character : Char} (plain : byte.toNat < 128) :
    byte ∈ String.utf8EncodeChar character ↔ character.toNat = byte.toNat := by
  have code : character.val.toNat = character.toNat := rfl
  simp only [String.utf8EncodeChar, code]
  -- The bytes of a longer encoding are all at least 128.
  split_ifs <;>
    simp only [List.mem_cons, List.not_mem_nil, or_false, ← UInt8.toNat_inj,
      UInt8.toNat_ofNat'] <;>
    omega

theorem toList_toUTF8_append (text other : String) :
    (text ++ other).toUTF8.toList = text.toUTF8.toList ++ other.toUTF8.toList := by
  simp only [toList_toUTF8, String.toList_append, List.flatMap_append]

def unlines (lines : List String) : String := String.join (lines.map fun line => line ++ "\n")

@[simp]
theorem unlines_nil : unlines [] = "" := rfl

@[simp]
theorem unlines_cons (line : String) (rest : List String) :
    unlines (line :: rest) = line ++ "\n" ++ unlines rest := by
  simp [unlines]

theorem unlines_append (lines others : List String) :
    unlines (lines ++ others) = unlines lines ++ unlines others := by
  simp [unlines, String.join_append]

/-- There are no control characters, and so no line ends. -/
def IsPlain (characters : List Char) : Prop := ∀ character ∈ characters, 32 ≤ character.toNat

instance (characters : List Char) : Decidable (IsPlain characters) :=
  List.decidableBAll (fun character : Char => 32 ≤ character.toNat) characters

theorem isPlain_cons {first : Char} {rest : List Char} :
    IsPlain (first :: rest) ↔ 32 ≤ first.toNat ∧ IsPlain rest :=
  List.forall_mem_cons

theorem isPlain_append {characters others : List Char} :
    IsPlain (characters ++ others) ↔ IsPlain characters ∧ IsPlain others :=
  List.forall_mem_append

theorem IsPlain.of_subset {characters others : List Char} (plain : IsPlain others)
    (included : characters ⊆ others) : IsPlain characters :=
  fun character membership => plain character (included membership)

theorem IsPlain.not_mem {line : String} (plain : IsPlain line.toList) (control : byte.toNat < 32) :
    byte ∉ line.toUTF8.toList := by
  rw [toList_toUTF8, List.mem_flatMap]
  rintro ⟨character, membership, inside⟩
  have same : character.toNat = byte.toNat := (mem_utf8EncodeChar (by omega)).mp inside
  have large := plain character membership
  omega

theorem splitLines_append {line : List UInt8} (noFeed : lineFeed ∉ line)
    (noReturn : carriageReturn ∉ line) (rest : List UInt8) :
    splitLines (line ++ lineFeed :: rest) = line :: splitLines rest := by
  induction line with
  | nil => simp [splitLines]
  | cons byte later inductionHypothesis =>
    rw [List.mem_cons, not_or] at noFeed noReturn
    have split := inductionHypothesis noFeed.2 noReturn.2
    simp [splitLines, split, Ne.symm noFeed.1, Ne.symm noReturn.1]

theorem lines_unlines {texts : List String} (whole : ∀ line ∈ texts, IsPlain line.toList) :
    lines (unlines texts).toUTF8 = texts.map some := by
  unfold lines
  induction texts with
  | nil =>
    rw [unlines_nil, toList_toUTF8]
    rfl
  | cons line rest inductionHypothesis =>
    have plain : IsPlain line.toList := whole line List.mem_cons_self
    have feed : ("\n" : String).toUTF8.toList = [lineFeed] := by
      rw [toList_toUTF8]
      rfl
    rw [unlines_cons, toList_toUTF8_append, toList_toUTF8_append, feed, List.append_assoc,
      List.singleton_append, splitLines_append (plain.not_mem (by decide))
        (plain.not_mem (by decide)), List.map_cons, List.map_cons, decodeLine?_toList_toUTF8,
      inductionHypothesis fun other membership => whole other (List.mem_cons_of_mem _ membership)]

end PromiseDetection.Text

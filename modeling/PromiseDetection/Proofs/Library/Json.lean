import Mathlib.Tactic.SplitIfs
import PromiseDetection.Library.Json.Codec
import PromiseDetection.Proofs.Service.Compact

/-!
The library that the program runs with writes compactly.

The text of a value has no control characters, so it stands on one line: control characters occur in
strings alone, and there they are written as escapes. A number that is read is a whole number of 64
bits or a floating-point number.
-/

namespace PromiseDetection.Json

open Text (IsPlain isPlain_cons isPlain_append)

namespace Number

theorem gather_lt {value : Nat} (short : value < Nat.pow 2 64) (digits : List Nat) :
    (gather value digits).1 < Nat.pow 2 64 := by
  fun_induction gather value digits with
  | case1 => exact short
  | case2 value digit rest more inductionHypothesis => exact inductionHypothesis more
  | case3 => exact short

/-- A whole number that is read fits into 64 bits. -/
theorem bounds_of_ofParts? {negative : Bool} {before : List Nat} {after? : Option (List Nat)}
    {exponent? : Option Int} {value : Int}
    (read : ofParts? negative before after? exponent? = some (.whole value)) :
    -(Nat.pow 2 63 : Nat) ≤ value ∧ value < (Nat.pow 2 64 : Nat) := by
  have short : (gather 0 before).1 < Nat.pow 2 64 := gather_lt (by decide) before
  unfold ofParts? at read
  dsimp only at read
  split_ifs at read with positive negated
  · cases read
    omega
  · cases read
    simp only [Bool.and_eq_true, decide_eq_true_eq] at negated
    have most : (gather 0 before).1 ≤ Nat.pow 2 63 := negated.2
    omega
  · simp [Option.bind_eq_bind, Option.bind_eq_some_iff] at read

theorem isPlain_nat (count : Nat) : IsPlain (toString count).toList := by
  intro character membership
  have digit : character.isDigit = true := by
    apply Nat.isDigit_of_mem_toDigits (b := 10) (n := count) (by decide) (by decide)
    rwa [← Nat.toList_repr]
  simp only [Char.isDigit, Bool.and_eq_true, decide_eq_true_eq] at digit
  have least : (48 : UInt32).toNat ≤ character.toNat := UInt32.le_iff_toNat_le.mp digit.1
  exact Nat.le_trans (by decide) least

theorem isPlain_int (value : Int) : IsPlain (toString value).toList := by
  cases value with
  | ofNat count => exact isPlain_nat count
  | negSucc count =>
    have shown : toString (Int.negSucc count) = "-" ++ toString (count + 1) := rfl
    rw [shown, String.toList_append, isPlain_append]
    exact ⟨by decide, isPlain_nat (count + 1)⟩

theorem isPlain_zeros (count : Nat) : IsPlain (List.replicate count '0') := by
  intro character membership
  rw [List.eq_of_mem_replicate membership]
  decide

theorem isPlain_decimalText {digits : List Char} (plain : IsPlain digits) (places : Int) :
    IsPlain (decimalText digits places).toList := by
  have front (count : Nat) : IsPlain (digits.take count) := plain.of_subset (List.take_subset _ _)
  have back (count : Nat) : IsPlain (digits.drop count) := plain.of_subset (List.drop_subset _ _)
  unfold decimalText
  dsimp only
  split_ifs <;>
    simp only [String.toList_append, String.toList_ofList, isPlain_append, plain, isPlain_zeros,
      isPlain_int, front, back, and_true, true_and] <;>
    decide

theorem isPlain_text (number : Number) : IsPlain number.text.toList := by
  cases number with
  | whole value => exact isPlain_int value
  | float negative size =>
    have sign : IsPlain (if negative = true then "-" else "").toList := by
      cases negative <;> decide
    have significant :
        IsPlain ((toString size.shortest.1).toList.reverse.dropWhile (· = '0')).reverse := by
      apply (isPlain_nat size.shortest.1).of_subset
      intro character membership
      have inside := (List.dropWhile_sublist _).mem (List.mem_reverse.mp membership)
      exact List.mem_reverse.mp inside
    unfold text
    dsimp only
    split
    · rw [String.toList_append, isPlain_append]
      exact ⟨sign, by decide⟩
    · rw [String.toList_append, isPlain_append]
      exact ⟨sign, isPlain_decimalText significant _⟩

end Number

theorem le_toNat_hexDigit : ∀ digit < 16, 32 ≤ (hexDigit digit).toNat := by decide

theorem isPlain_escaped (character : Char) : IsPlain (escaped character) := by
  unfold escaped
  split_ifs with quote slash feed ret tab back form control
  all_goals try decide
  · have first := le_toNat_hexDigit (character.toNat / 16) (by omega)
    have second := le_toNat_hexDigit (character.toNat % 16) (by omega)
    simp only [isPlain_cons, first, second]
    decide
  · rw [isPlain_cons]
    exact ⟨by omega, by decide⟩

theorem isPlain_stringText (text : String) : IsPlain (stringText text) := by
  have inside : IsPlain (text.toList.flatMap escaped) := by
    intro character membership
    obtain ⟨source, -, written⟩ := List.mem_flatMap.mp membership
    exact isPlain_escaped source character written
  rw [stringText, isPlain_cons, isPlain_append]
  exact ⟨by decide, inside, by decide⟩

namespace Value

mutual

theorem isPlain_characters (value : Value) : IsPlain value.characters := by
  cases value with
  | null => decide
  | bool value => cases value <;> decide
  | number number => exact number.isPlain_text
  | string text => exact isPlain_stringText text
  | array items =>
    rw [characters, isPlain_cons, isPlain_append]
    exact ⟨by decide, isPlain_itemCharacters items, by decide⟩
  | object members =>
    rw [characters, isPlain_cons, isPlain_append]
    exact ⟨by decide, isPlain_memberCharacters members, by decide⟩

theorem isPlain_itemCharacters (items : List Value) : IsPlain (itemCharacters items) := by
  cases items with
  | nil => decide
  | cons item rest =>
    have first := isPlain_characters item
    have later := isPlain_itemCharacters rest
    cases rest with
    | nil => exact first
    | cons second others =>
      rw [itemCharacters, isPlain_append, isPlain_cons]
      · exact ⟨first, by decide, later⟩
      · simp

theorem isPlain_memberCharacters (members : List (String × Value)) :
    IsPlain (memberCharacters members) := by
  cases members with
  | nil => decide
  | cons member rest =>
    obtain ⟨name, value⟩ := member
    have first := isPlain_characters value
    have later := isPlain_memberCharacters rest
    cases rest with
    | nil =>
      rw [memberCharacters, isPlain_append, isPlain_cons]
      exact ⟨isPlain_stringText name, by decide, first⟩
    | cons second others =>
      rw [memberCharacters, isPlain_append, isPlain_cons, isPlain_append, isPlain_cons]
      · exact ⟨isPlain_stringText name, by decide, first, by decide, later⟩
      · simp

end

theorem isPlain_text (value : Value) : IsPlain value.text.toList := by
  rw [text, String.toList_ofList]
  exact value.isPlain_characters

theorem ofList_memberCharacters (members : List (String × Value)) :
    String.ofList (memberCharacters members) =
      String.intercalate ","
        (members.map fun member => text (.string member.1) ++ ":" ++ text member.2) := by
  induction members with
  | nil => simp [memberCharacters]
  | cons member rest inductionHypothesis =>
    obtain ⟨name, value⟩ := member
    cases rest with
    | nil => simp [memberCharacters, text, characters, ← String.toList_inj]
    | cons second others =>
      rw [List.map_cons] at inductionHypothesis
      rw [List.map_cons, List.map_cons, String.intercalate_cons_cons, ← inductionHypothesis,
        memberCharacters]
      · simp [text, characters, ← String.toList_inj]
      · simp

theorem flatMap_escaped {text : String} (bare : Service.IsBare text) :
    text.toList.flatMap escaped = text.toList := by
  have same : ∀ character ∈ text.toList, escaped character = [character] := by
    intro character membership
    obtain ⟨least, quote, slash⟩ := bare character membership
    have large (code : Char) (small : code.toNat < 32) : character ≠ code := by
      rintro rfl
      omega
    simp only [escaped, quote, slash, if_false, large '\n' (by decide), large '\r' (by decide),
      large '\t' (by decide)]
    rw [if_neg (by omega), if_neg (by omega), if_neg (by omega)]
  rw [List.flatMap_congr same, List.flatMap_singleton']

end Value

end PromiseDetection.Json

namespace PromiseDetection.Service

theorem Codec.isCompact_standard : Codec.standard.IsCompact where
  plain := Json.Value.isPlain_text
  null := by decide
  whole value := by simp [standard, Json.Value.text, Json.Value.characters, Json.Number.text]
  bare text := by
    simp [standard, Json.Value.text, Json.Value.characters, Json.stringText,
      Json.Value.flatMap_escaped text, ← String.toList_inj]
  object members := by
    simp only [standard, ← Json.Value.ofList_memberCharacters]
    simp [Json.Value.text, Json.Value.characters, ← String.toList_inj]

end PromiseDetection.Service

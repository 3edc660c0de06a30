import Mathlib.Tactic.SplitIfs
import PromiseDetection.Text.Slice

/-!
Slices of texts, byte by byte.

The ends of some bytes are boundaries between characters exactly if these bytes are a text of their
own. So a slice depends on its own bytes alone, whatever stands before and behind them.
-/

namespace PromiseDetection.Text

variable {text other : String} {start stop : Nat}

def byteAt? (text : String) (offset : Nat) : Option UInt8 := text.toByteArray.data[offset]?

theorem byteAt?_eq_none_iff {offset : Nat} :
    byteAt? text offset = none ↔ text.toByteArray.size ≤ offset :=
  Array.getElem?_eq_none_iff

/-- An offset stands between two characters, or at an end of the text. -/
def IsBoundary (text : String) (offset : Nat) : Prop :=
  (⟨offset⟩ : String.Pos.Raw).IsValid text

theorem pos?_of_isBoundary (boundary : IsBoundary text start) :
    text.pos? ⟨start⟩ = some (text.pos ⟨start⟩ boundary) := by
  have valid : (⟨start⟩ : String.Pos.Raw).IsValid text := boundary
  simp [String.pos?, String.Slice.pos?, String.pos, valid]

theorem pos?_of_not_isBoundary (inside : ¬ IsBoundary text start) :
    text.pos? ⟨start⟩ = none := by
  have invalid : ¬ (⟨start⟩ : String.Pos.Raw).IsValid text := inside
  simpa [String.pos?, String.Slice.pos?] using invalid

theorem toByteArray_slice (first : IsBoundary text start) (last : IsBoundary text stop) :
    (slice text start stop).toByteArray = text.toByteArray.extract start stop := by
  rw [slice, pos?_of_isBoundary first, pos?_of_isBoundary last]
  rfl

theorem slice_of_not_isBoundary (inside : ¬ (IsBoundary text start ∧ IsBoundary text stop)) :
    slice text start stop = "" := by
  unfold slice
  by_cases first : IsBoundary text start
  · rw [pos?_of_not_isBoundary fun last => inside ⟨first, last⟩]
    split
    · next found => cases found
    · rfl
  · rw [pos?_of_not_isBoundary first]

theorem slice_of_le (reversed : stop ≤ start) : slice text start stop = "" := by
  by_cases boundaries : IsBoundary text start ∧ IsBoundary text stop
  · rw [← String.toByteArray_inj, toByteArray_slice boundaries.1 boundaries.2]
    exact ByteArray.extract_eq_empty_iff.mpr (Nat.le_trans (Nat.min_le_left _ _) reversed)
  · exact slice_of_not_isBoundary boundaries

theorem isBoundary_iff (ordered : start < stop) :
    IsBoundary text start ∧ IsBoundary text stop ↔
      stop ≤ text.toByteArray.size ∧ (text.toByteArray.extract start stop).IsValidUTF8 := by
  rw [String.size_toByteArray]
  constructor
  · rintro ⟨first, last⟩
    refine ⟨last.le_rawEndPos, ?_⟩
    apply (String.Pos.Raw.isValidUTF8_extract_iff ⟨start⟩ ⟨stop⟩ (Nat.le_of_lt ordered)
      last.le_rawEndPos).mpr
    exact .inr ⟨first, last⟩
  · rintro ⟨within, valid⟩
    rcases (String.Pos.Raw.isValidUTF8_extract_iff ⟨start⟩ ⟨stop⟩ (Nat.le_of_lt ordered)
      within).mp valid with same | boundaries
    · cases same
      exact absurd ordered (Nat.lt_irrefl _)
    · exact boundaries

theorem getElem?_extract (bytes : ByteArray) (start stop index : Nat) :
    (bytes.extract start stop).data[index]? =
      if start + index < stop then bytes.data[start + index]? else none := by
  rw [ByteArray.data_extract, Array.getElem?_extract]
  split_ifs with within before before
  · rfl
  · omega
  · rw [eq_comm, Array.getElem?_eq_none_iff]
    omega
  · rfl

theorem extract_congr (ordered : start < stop)
    (same : ∀ offset, start ≤ offset → offset < stop → byteAt? text offset = byteAt? other offset) :
    (stop ≤ text.toByteArray.size ↔ stop ≤ other.toByteArray.size) ∧
      text.toByteArray.extract start stop = other.toByteArray.extract start stop := by
  constructor
  · have last : byteAt? text (stop - 1) = none ↔ byteAt? other (stop - 1) = none := by
      rw [same (stop - 1) (by omega) (by omega)]
    rw [byteAt?_eq_none_iff, byteAt?_eq_none_iff] at last
    omega
  · apply ByteArray.ext
    apply Array.ext_getElem?
    intro index
    rw [getElem?_extract, getElem?_extract]
    split_ifs with before
    · exact same (start + index) (Nat.le_add_right _ _) before
    · rfl

/-- A slice depends on its own bytes alone. -/
theorem slice_congr
    (same : ∀ offset, start ≤ offset → offset < stop → byteAt? text offset = byteAt? other offset) :
    slice text start stop = slice other start stop := by
  rcases Nat.lt_or_ge start stop with ordered | reversed
  · obtain ⟨reach, bytes⟩ := extract_congr ordered same
    have boundaries : IsBoundary text start ∧ IsBoundary text stop ↔
        IsBoundary other start ∧ IsBoundary other stop := by
      rw [isBoundary_iff ordered, isBoundary_iff ordered, reach, bytes]
    by_cases both : IsBoundary text start ∧ IsBoundary text stop
    · have others := boundaries.mp both
      rw [← String.toByteArray_inj, toByteArray_slice both.1 both.2, bytes,
        toByteArray_slice others.1 others.2]
    · rw [slice_of_not_isBoundary both, slice_of_not_isBoundary (mt boundaries.mpr both)]
  · rw [slice_of_le reversed, slice_of_le reversed]

end PromiseDetection.Text

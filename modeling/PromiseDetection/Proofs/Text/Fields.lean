import Mathlib.Data.List.Basic
import PromiseDetection.Text.Fields

/-!
The pieces between separators.

No piece holds the separator, every other character is in one of them, and pieces without the
separator that are joined by it are found again.
-/

namespace PromiseDetection.Text

variable {separator character : Char}

theorem splitAt_ne_nil (characters : List Char) : splitAt separator characters ≠ [] := by
  induction characters with
  | nil => simp [splitAt]
  | cons first rest inductionHypothesis =>
    by_cases splits : first = separator
    · simp [splitAt, splits]
    · cases found : splitAt separator rest <;> simp [splitAt, splits, found]

theorem splitAt_append_separator (front rest : List Char) :
    splitAt separator (front ++ separator :: rest) =
      splitAt separator front ++ splitAt separator rest := by
  induction front with
  | nil => simp [splitAt]
  | cons first front inductionHypothesis =>
    by_cases splits : first = separator
    · simp [splitAt, splits, inductionHypothesis]
    · cases found : splitAt separator front with
      | nil => exact absurd found (splitAt_ne_nil front)
      | cons piece others => simp [splitAt, splits, inductionHypothesis, found]

theorem splitAt_of_not_mem {characters : List Char} (absent : separator ∉ characters) :
    splitAt separator characters = [characters] := by
  induction characters with
  | nil => rfl
  | cons first rest inductionHypothesis =>
    rw [List.mem_cons, not_or] at absent
    simp [splitAt, Ne.symm absent.1, inductionHypothesis absent.2]

theorem separator_not_mem_of_mem_splitAt {characters piece : List Char}
    (membership : piece ∈ splitAt separator characters) : separator ∉ piece := by
  induction characters generalizing piece with
  | nil => simp_all [splitAt]
  | cons first rest inductionHypothesis =>
    by_cases splits : first = separator
    · rw [splitAt, if_pos splits, List.mem_cons] at membership
      rcases membership with rfl | later
      · simp
      · exact inductionHypothesis later
    · cases found : splitAt separator rest with
      | nil => exact absurd found (splitAt_ne_nil rest)
      | cons head others =>
        simp only [splitAt, if_neg splits, found, List.mem_cons] at membership
        simp only [found, List.mem_cons] at inductionHypothesis
        rcases membership with rfl | later
        · simp [Ne.symm splits, inductionHypothesis (Or.inl rfl)]
        · exact inductionHypothesis (Or.inr later)

theorem mem_iff_mem_splitAt (apart : character ≠ separator) (characters : List Char) :
    character ∈ characters ↔ ∃ piece ∈ splitAt separator characters, character ∈ piece := by
  induction characters with
  | nil => simp [splitAt]
  | cons first rest inductionHypothesis =>
    by_cases splits : first = separator
    · simp [splitAt, splits, apart, inductionHypothesis]
    · cases found : splitAt separator rest with
      | nil => exact absurd found (splitAt_ne_nil rest)
      | cons piece others =>
        simp only [found] at inductionHypothesis
        simp [splitAt, splits, found, inductionHypothesis, or_assoc]

theorem getLast?_splitAt_of_suffix {front last : List Char} (absent : separator ∉ last) :
    (splitAt separator (front ++ separator :: last)).getLast? = some last := by
  rw [splitAt_append_separator, splitAt_of_not_mem absent, List.getLast?_concat]

theorem getLast?_splitAt_concat (apart : character ≠ separator) (characters : List Char) :
    ∃ front, (splitAt separator (characters ++ [character])).getLast? =
      some (front ++ [character]) := by
  induction characters with
  | nil => exact ⟨[], by simp [splitAt, apart]⟩
  | cons first rest inductionHypothesis =>
    obtain ⟨front, last⟩ := inductionHypothesis
    cases found : splitAt separator (rest ++ [character]) with
    | nil => exact absurd found (splitAt_ne_nil _)
    | cons piece others =>
      rw [found] at last
      by_cases splits : first = separator
      · exact ⟨front, by simp [splitAt, splits, found, List.getLast?_cons_cons, last]⟩
      · cases others with
        | nil =>
          refine ⟨first :: front, ?_⟩
          simp_all [splitAt]
        | cons other others =>
          exact ⟨front, by simpa [splitAt, splits, found] using last⟩

theorem splitAt_intercalate {mark : String} {items : List String}
    (written : mark.toList = [separator]) (apart : ∀ item ∈ items, separator ∉ item.toList)
    (nonempty : items ≠ []) :
    splitAt separator (String.intercalate mark items).toList = items.map String.toList := by
  induction items with
  | nil => exact absurd rfl nonempty
  | cons item rest inductionHypothesis =>
    have first := splitAt_of_not_mem (apart item List.mem_cons_self)
    cases rest with
    | nil => simpa using first
    | cons second others =>
      have later := inductionHypothesis
        (fun other membership => apart other (List.mem_cons_of_mem item membership))
        (List.cons_ne_nil second others)
      have joined : (String.intercalate mark (item :: second :: others)).toList =
          item.toList ++ separator :: (String.intercalate mark (second :: others)).toList := by
        simp [String.toList_intercalate, written]
      rw [joined, splitAt_append_separator, first, later]
      rfl

end PromiseDetection.Text

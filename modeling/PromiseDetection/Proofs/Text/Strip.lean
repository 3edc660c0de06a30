import Mathlib.Data.List.DropRight
import PromiseDetection.Text.Blank

/-!
Texts without the characters at their ends that satisfy a test.

What is left is a piece of the text. It begins and ends with a character that fails the test, and
nothing is left exactly if all characters satisfy it.
-/

namespace PromiseDetection.Text

variable {test : Char → Bool} {front characters : List Char}

theorem strip_eq_rdropWhile : strip test characters = (characters.dropWhile test).rdropWhile test :=
  rfl

theorem strip_infix : strip test characters <:+: characters := by
  rw [strip_eq_rdropWhile]
  exact (List.rdropWhile_prefix test _).isInfix.trans (List.dropWhile_suffix test).isInfix

theorem exists_eq_append_strip (test : Char → Bool) (characters : List Char) :
    ∃ front back, characters = front ++ (strip test characters ++ back) ∧
      ∀ character ∈ front, test character = true := by
  obtain ⟨back, stripped⟩ := List.rdropWhile_prefix test (characters.dropWhile test)
  refine ⟨characters.takeWhile test, back, ?_, fun character => List.mem_takeWhile_imp⟩
  rw [strip_eq_rdropWhile, stripped, List.takeWhile_append_dropWhile]

theorem ends_strip (test : Char → Bool) (characters : List Char) :
    (∀ first ∈ (strip test characters).head?, test first = false) ∧
      ∀ last ∈ (strip test characters).getLast?, test last = false := by
  constructor
  · intro first begins
    obtain ⟨back, kept⟩ := List.rdropWhile_prefix test (characters.dropWhile test)
    have fails := List.head?_dropWhile_not test characters
    rwa [← kept, ← strip_eq_rdropWhile, List.head?_append, Option.mem_def.mp begins] at fails
  · intro last ends
    obtain ⟨written, rfl⟩ := List.mem_getLast?_eq_getLast ends
    exact Bool.eq_false_iff.mpr (List.rdropWhile_last_not test (characters.dropWhile test) written)

theorem strip_append (satisfied : ∀ character ∈ front, test character = true) :
    strip test (front ++ characters) = strip test characters := by
  rw [strip_eq_rdropWhile, List.dropWhile_append_of_pos satisfied, ← strip_eq_rdropWhile]

theorem rdropWhile_append (fails : ∃ character ∈ characters, test character = false) :
    (front ++ characters).rdropWhile test = front ++ characters.rdropWhile test := by
  have kept : ¬ (characters.reverse.dropWhile test).isEmpty = true := by
    simpa using fails
  rw [List.rdropWhile, List.reverse_append, List.dropWhile_append, if_neg kept,
    List.reverse_append, List.reverse_reverse, ← List.rdropWhile]

theorem strip_eq_self_iff :
    strip test characters = characters ↔
      (∀ first ∈ characters.head?, test first = false) ∧
        ∀ last ∈ characters.getLast?, test last = false := by
  have front : characters.dropWhile test = characters ↔
      ∀ first ∈ characters.head?, test first = false := by
    cases characters <;> simp [List.dropWhile_eq_self_iff]
  have back : characters.rdropWhile test = characters ↔
      ∀ last ∈ characters.getLast?, test last = false := by
    rcases List.eq_nil_or_concat characters with rfl | ⟨before, last, rfl⟩ <;>
      simp [List.rdropWhile_eq_self_iff]
  rw [← front, ← back, strip_eq_rdropWhile]
  constructor
  · intro same
    have whole : characters.dropWhile test = characters := by
      apply (List.dropWhile_suffix test).eq_of_length_le
      have shorter := (List.rdropWhile_prefix test (characters.dropWhile test)).length_le
      rwa [same] at shorter
    rw [whole] at same
    exact ⟨whole, same⟩
  · rintro ⟨whole, same⟩
    rw [whole, same]

theorem strip_quoted {mark : Char} (marks : test mark = true) :
    strip test (mark :: (characters ++ [mark])) = strip test characters := by
  rw [strip_eq_rdropWhile, strip_eq_rdropWhile, List.dropWhile_cons_of_pos marks,
    List.dropWhile_append]
  split
  · next nothing =>
    rw [List.isEmpty_iff.mp nothing, List.dropWhile_cons_of_pos marks, List.dropWhile_nil]
  · exact List.rdropWhile_concat_pos test _ _ marks

theorem strip_eq_nil_iff :
    strip test characters = [] ↔ ∀ character ∈ characters, test character = true := by
  -- What is left of the characters begins with one that fails the test, if it begins at all.
  have idempotent := List.dropWhile_idempotent test characters
  simp only [strip, List.reverse_eq_nil_iff, List.dropWhile_eq_nil_iff, List.mem_reverse]
  rw [← List.dropWhile_eq_nil_iff, idempotent, List.dropWhile_eq_nil_iff]

end PromiseDetection.Text

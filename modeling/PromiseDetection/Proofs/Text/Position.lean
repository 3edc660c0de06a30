import Mathlib.Data.List.Induction
import PromiseDetection.Proofs.Text.Slice
import PromiseDetection.Text.Span

/-!
Lines and columns in the order of offsets.

An offset is a character boundary exactly if it counts the bytes of some first characters of the
text. One more character leads to a later place: a line feed to the next line, and every other
character to the next column. So the places of boundaries come in the order of the boundaries, and
no two of them are the same. All other offsets share the place of the end of the text.
-/

namespace PromiseDetection

namespace Text

variable {text : String} {characters before rest : List Char} {offset : Nat}

theorem utf8ByteSize_ofList_cons (first : Char) (rest : List Char) :
    (String.ofList (first :: rest)).utf8ByteSize =
      first.utf8Size + (String.ofList rest).utf8ByteSize := by
  rw [String.ofList_cons, String.utf8ByteSize_append, String.utf8ByteSize_singleton]

/-- The characters before an offset are a beginning of the text that takes as many bytes. -/
theorem charactersBefore?_eq_some_iff :
    charactersBefore? characters offset = some before ↔
      (∃ rest, before ++ rest = characters) ∧ (String.ofList before).utf8ByteSize = offset := by
  fun_induction charactersBefore? characters offset generalizing before with
  | case1 characters =>
    cases before with
    | nil => simp
    | cons first rest =>
      have wide := first.utf8Size_pos
      refine ⟨nofun, ?_⟩
      rintro ⟨_, size⟩
      rw [utf8ByteSize_ofList_cons] at size
      omega
  | case2 offset =>
    refine ⟨nofun, ?_⟩
    rintro ⟨⟨rest, same⟩, size⟩
    obtain ⟨rfl, _⟩ := List.append_eq_nil_iff.mp same
    simp at size
  | case3 first rest offset fits inductionHypothesis =>
    cases before with
    | nil => simp
    | cons head tail =>
      simp only [Option.map_eq_some_iff, List.cons.injEq, inductionHypothesis, List.cons_append,
        utf8ByteSize_ofList_cons]
      constructor
      · rintro ⟨_, ⟨found, size⟩, rfl, rfl⟩
        exact ⟨found.imp fun _ same => ⟨rfl, same⟩, by omega⟩
      · rintro ⟨⟨behind, rfl, same⟩, size⟩
        exact ⟨tail, ⟨⟨behind, same⟩, by omega⟩, rfl, rfl⟩
  | case4 first rest offset wide =>
    cases before with
    | nil => simp
    | cons head tail =>
      simp only [List.cons_append, List.cons.injEq, utf8ByteSize_ofList_cons]
      refine ⟨nofun, ?_⟩
      rintro ⟨⟨_, rfl, _⟩, size⟩
      omega

theorem exists_charactersBefore?_iff :
    (∃ before, charactersBefore? text.toList offset = some before) ↔ IsBoundary text offset := by
  simp only [charactersBefore?_eq_some_iff, IsBoundary, String.Pos.Raw.isValid_iff_exists_append]
  constructor
  · rintro ⟨before, ⟨rest, same⟩, size⟩
    refine ⟨String.ofList before, String.ofList rest, ?_, ?_⟩
    · rw [← String.ofList_append, same, String.ofList_toList]
    · exact String.Pos.Raw.ext size.symm
  · rintro ⟨before, rest, rfl, same⟩
    refine ⟨before.toList, ⟨rest.toList, String.toList_append.symm⟩, ?_⟩
    rw [String.ofList_toList]
    exact (congrArg String.Pos.Raw.byteIdx same).symm

namespace Position

/-- Lines count first, and columns within a line. -/
def Precedes (first second : Position) : Prop :=
  first.line < second.line ∨ first.line = second.line ∧ first.column < second.column

variable {first second third : Position}

theorem Precedes.trans (earlier : first.Precedes second) (later : second.Precedes third) :
    first.Precedes third := by
  unfold Precedes at earlier later ⊢
  omega

theorem not_precedes_self (position : Position) : ¬ position.Precedes position := by
  simp [Precedes]

theorem Precedes.asymm (earlier : first.Precedes second) : ¬ second.Precedes first :=
  fun later => not_precedes_self first (earlier.trans later)

theorem ofCharacters_concat (before : List Char) (next : Char) :
    ofCharacters (before ++ [next]) =
      if next = '\n' then ⟨(ofCharacters before).line + 1, 1⟩
      else ⟨(ofCharacters before).line, (ofCharacters before).column + 1⟩ := by
  by_cases feed : next = '\n' <;> simp [ofCharacters, feed]

theorem precedes_concat (before : List Char) (next : Char) :
    (ofCharacters before).Precedes (ofCharacters (before ++ [next])) := by
  rw [ofCharacters_concat, Precedes]
  split
  · exact .inl (Nat.lt_succ_self _)
  · exact .inr ⟨rfl, Nat.lt_succ_self _⟩

theorem precedes_append (before : List Char) (nonempty : rest ≠ []) :
    (ofCharacters before).Precedes (ofCharacters (before ++ rest)) := by
  induction rest using List.reverseRecOn with
  | nil => exact absurd rfl nonempty
  | append_singleton rest next inductionHypothesis =>
    rw [← List.append_assoc]
    have last := precedes_concat (before ++ rest) next
    cases rest with
    | nil => simpa using last
    | cons head tail => exact (inductionHypothesis (List.cons_ne_nil head tail)).trans last

/-- Of two boundaries, the one with fewer bytes before it has the earlier place. -/
theorem precedes_ofOffset {start stop : Nat} (first : IsBoundary text start)
    (second : IsBoundary text stop) (ordered : start < stop) :
    (ofOffset text start).Precedes (ofOffset text stop) := by
  obtain ⟨fewer, cutFirst⟩ := exists_charactersBefore?_iff.mpr first
  obtain ⟨more, cutSecond⟩ := exists_charactersBefore?_iff.mpr second
  obtain ⟨shorter, size⟩ := charactersBefore?_eq_some_iff.mp cutFirst
  obtain ⟨longer, sizeToo⟩ := charactersBefore?_eq_some_iff.mp cutSecond
  -- Both are beginnings of the text, so one of them goes on where the other one ends.
  have nested : fewer <+: more := by
    rcases List.prefix_or_prefix_of_prefix shorter longer with goesOn | ⟨back, rfl⟩
    · exact goesOn
    · rw [String.ofList_append, String.utf8ByteSize_append] at size
      omega
  obtain ⟨between, rfl⟩ := nested
  rw [ofOffset, ofOffset, cutFirst, cutSecond]
  apply precedes_append
  rintro rfl
  rw [List.append_nil] at sizeToo
  omega

theorem precedes_ofOffset_iff {start stop : Nat} (first : IsBoundary text start)
    (second : IsBoundary text stop) :
    (ofOffset text start).Precedes (ofOffset text stop) ↔ start < stop := by
  refine ⟨fun before => ?_, precedes_ofOffset first second⟩
  rcases Nat.lt_trichotomy start stop with earlier | rfl | later
  · exact earlier
  · exact absurd before (not_precedes_self _)
  · exact absurd before (precedes_ofOffset second first later).asymm

theorem ofOffset_inj {start stop : Nat} (first : IsBoundary text start)
    (second : IsBoundary text stop) :
    ofOffset text start = ofOffset text stop ↔ start = stop := by
  refine ⟨fun same => ?_, congrArg (ofOffset text)⟩
  have apart := precedes_ofOffset_iff first second
  have apartToo := precedes_ofOffset_iff second first
  rw [same, iff_false_left (not_precedes_self _)] at apart
  rw [same, iff_false_left (not_precedes_self _)] at apartToo
  omega

theorem ofOffset_of_not_isBoundary (inside : ¬ IsBoundary text offset) :
    ofOffset text offset = ofCharacters text.toList := by
  have lost : charactersBefore? text.toList offset = none := by
    rw [← exists_charactersBefore?_iff] at inside
    exact Option.eq_none_iff_forall_ne_some.mpr (not_exists.mp inside)
  rw [ofOffset, lost, Option.getD_none]

theorem ofOffset_end (text : String) :
    ofOffset text text.utf8ByteSize = ofCharacters text.toList := by
  have whole : charactersBefore? text.toList text.utf8ByteSize = some text.toList :=
    charactersBefore?_eq_some_iff.mpr ⟨⟨[], List.append_nil _⟩, by rw [String.ofList_toList]⟩
  rw [ofOffset, whole, Option.getD_some]

end Position

end Text

namespace Span

open Text

/-- **Places come in the order of offsets.** On the character boundaries of any text, a span that
begins earlier has an earlier line, or an earlier column in the same line. So line and column tell
where a span begins. A span that begins beyond the text, or inside a character, has the place of the
end of the text. -/
theorem position_ordered (source : String) :
    (∀ first second : Span, IsBoundary source first.start → IsBoundary source second.start →
      ((first.position source).Precedes (second.position source) ↔ first.start < second.start) ∧
        (first.position source = second.position source ↔ first.start = second.start)) ∧
      ∀ span : Span, source.utf8ByteSize < span.start ∨ ¬ IsBoundary source span.start →
        span.position source =
          (Span.mk source.utf8ByteSize source.utf8ByteSize).position source := by
  constructor
  · intro first second boundary boundaryToo
    exact ⟨Position.precedes_ofOffset_iff boundary boundaryToo,
      Position.ofOffset_inj boundary boundaryToo⟩
  · intro span lost
    have inside : ¬ IsBoundary source span.start := by
      rcases lost with beyond | inside
      · exact fun boundary => Nat.not_le_of_lt beyond boundary.le_rawEndPos
      · exact inside
    rw [position, position, Position.ofOffset_of_not_isBoundary inside, Position.ofOffset_end]

/-- Between the two lines of a text with letters of several bytes. -/
example : (Span.mk 3 5).position "é\nπ" = ⟨2, 1⟩ ∧ (Span.mk 4 5).position "é\nπ" = ⟨2, 2⟩ := by
  decide

end Span

end PromiseDetection

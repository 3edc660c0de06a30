import Mathlib
import PromiseDetection.Proofs.Text.Fields
import PromiseDetection.Proofs.Text.Strip
import PromiseDetection.Source.Extensions

/-!
The normal form of a list of extensions.

Blanks are taken away at both ends of an item, and after that the dots before it. A blank that
stands behind these dots comes to the front only then, and it stays. In every other respect what is
read of a list is in normal form, so this blank is also the only reason why reading the result again
can change it.
-/

namespace PromiseDetection.Extensions

variable {list item extension : String} {extensions : List String} {character mark : Char}

/-- Whatever is read of a list is like this: it is not empty, there is no comma in it and no capital
letter, it does not begin with a dot, and no blank stands at its end. -/
structure IsTidy (extension : String) : Prop where
  nonempty : extension ≠ ""
  commaless : ',' ∉ extension.toList
  undotted : ∀ first ∈ extension.toList.head?, first ≠ '.'
  lower : ∀ character ∈ extension.toList, character.isUpper = false
  back : ∀ last ∈ extension.toList.getLast?, Text.isBlank last = false

/-- An extension as it is compared with those of files: no blank stands at its front either. -/
structure IsNormal (extension : String) : Prop extends IsTidy extension where
  front : ∀ first ∈ extension.toList.head?, Text.isBlank first = false

/-- What is read of a list is in normal form, and reading it again gives the same. -/
structure Normalizes (list : String) : Prop where
  normal : ∀ extension ∈ parse list, IsNormal extension
  again : parse (String.intercalate "," (parse list)) = parse list

/-- After any blanks an item begins with dots, a blank stands behind them, and something follows
that is not blank. -/
def HidesBlank (item : String) : Prop :=
  ∃ blanks dots blank rest, item.toList = blanks ++ (dots ++ blank :: rest) ∧
    (∀ character ∈ blanks, Text.isBlank character = true) ∧
    dots ≠ [] ∧ (∀ dot ∈ dots, dot = '.') ∧ Text.isBlank blank = true ∧
    ∃ character ∈ rest, Text.isBlank character = false

theorem toLower_eq_iff (plain : mark.isAlpha = false) :
    character.toLower = mark ↔ character = mark := by
  rw [Char.isAlpha, Bool.or_eq_false_iff] at plain
  constructor
  · rintro rfl
    by_contra moved
    have upper : character.isUpper = true := by
      by_contra lower
      exact moved (Char.toLower_eq_of_not_isUpper lower).symm
    have lower := plain.2
    rw [Char.isLower_toLower_eq_isAlpha, Char.isAlpha, upper] at lower
    simp at lower
  · rintro rfl
    exact Char.toLower_eq_of_not_isUpper (by simp [plain.1])

theorem isBlank_of_isAlpha (letter : character.isAlpha = true) :
    Text.isBlank character = false := by
  have code : 65 ≤ character.toNat ∧ character.toNat ≤ 90 ∨
      97 ≤ character.toNat ∧ character.toNat ≤ 122 := by
    simpa [Char.isAlpha, Char.isUpper, Char.isLower, UInt32.le_iff_toNat_le] using letter
  rw [← Bool.not_eq_true]
  simp only [Text.isBlank, Bool.or_eq_true, Bool.and_eq_true, decide_eq_true_eq, beq_iff_eq]
  omega

theorem isBlank_toLower : Text.isBlank character.toLower = Text.isBlank character := by
  cases letter : character.isAlpha with
  | true =>
    rw [isBlank_of_isAlpha letter,
      isBlank_of_isAlpha (character.isAlpha_toLower_eq_isAlpha.trans letter)]
  | false =>
    rw [Char.isAlpha, Bool.or_eq_false_iff] at letter
    rw [Char.toLower_eq_of_not_isUpper (by simp [letter.1])]

theorem toList_normal :
    (normal item).toList =
      ((Text.strip Text.isBlank item.toList).dropWhile (· = '.')).map Char.toLower := by
  simp [normal, Text.asciiLower]

theorem isTidy_normal (commaless : ',' ∉ item.toList) (nonempty : normal item ≠ "") :
    IsTidy (normal item) := by
  refine ⟨nonempty, ?commaless, ?undotted, ?lower, ?back⟩ <;> rw [toList_normal]
  case commaless =>
    intro inside
    obtain ⟨character, kept, lower⟩ := List.mem_map.mp inside
    obtain rfl := (toLower_eq_iff (by decide)).mp lower
    exact commaless (Text.strip_infix.subset ((List.dropWhile_suffix _).subset kept))
  case undotted =>
    intro first begins
    rw [List.head?_map] at begins
    obtain ⟨character, kept, rfl⟩ := Option.map_eq_some_iff.mp begins
    have fails := List.head?_dropWhile_not (· = '.') (Text.strip Text.isBlank item.toList)
    rw [kept] at fails
    rw [Ne, toLower_eq_iff (by decide)]
    exact of_decide_eq_false fails
  case lower =>
    intro character inside
    obtain ⟨letter, -, rfl⟩ := List.mem_map.mp inside
    exact letter.isUpper_toLower_eq_false
  case back =>
    intro last ends
    rw [List.getLast?_map] at ends
    obtain ⟨character, kept, rfl⟩ := Option.map_eq_some_iff.mp ends
    obtain ⟨dots, stripped⟩ := List.dropWhile_suffix (l := Text.strip Text.isBlank item.toList)
      (· = '.')
    rw [isBlank_toLower]
    refine (Text.ends_strip Text.isBlank item.toList).2 character ?_
    rw [← stripped, List.getLast?_append, kept]
    rfl

theorem IsNormal.normal_eq (isNormal : IsNormal extension) : normal extension = extension := by
  have stripped : Text.strip Text.isBlank extension.toList = extension.toList :=
    Text.strip_eq_self_iff.mpr ⟨isNormal.front, isNormal.back⟩
  have undotted : extension.toList.dropWhile (· = '.') = extension.toList := by
    have begins := isNormal.undotted
    cases written : extension.toList with
    | nil => rfl
    | cons first rest => exact List.dropWhile_cons_of_neg (by simpa [written] using begins)
  have lower : extension.toList.map Char.toLower = extension.toList :=
    calc extension.toList.map Char.toLower = extension.toList.map id :=
          List.map_congr_left fun character inside =>
            Char.toLower_eq_of_not_isUpper (by simp [isNormal.lower character inside])
      _ = extension.toList := List.map_id _
  rw [← String.toList_inj, toList_normal, stripped, undotted, lower]

theorem isBlank_front_of_normal_eq (same : normal extension = extension) :
    ∀ first ∈ extension.toList.head?, Text.isBlank first = false := by
  have lengths := congrArg (fun text : String => text.toList.length) same
  simp only [toList_normal, List.length_map] at lengths
  have undotted :=
    (List.dropWhile_suffix (l := Text.strip Text.isBlank extension.toList) (· = '.')).length_le
  have whole : Text.strip Text.isBlank extension.toList = extension.toList :=
    Text.strip_infix.eq_of_length_le (by omega)
  exact (Text.strip_eq_self_iff.mp whole).1

theorem hidesBlank_iff :
    HidesBlank item ↔ ∃ first ∈ (normal item).toList.head?, Text.isBlank first = true := by
  rw [toList_normal, List.head?_map]
  constructor
  · rintro ⟨blanks, dots, blank, rest, written, areBlank, dotted, areDots, isBlank, follows⟩
    have begins : ∀ dot ∈ dots, Text.isBlank dot = false := by
      rintro dot inside
      rw [areDots dot inside]
      decide
    have stripped : Text.strip Text.isBlank item.toList =
        dots ++ blank :: rest.rdropWhile Text.isBlank :=
      calc Text.strip Text.isBlank item.toList
          = (dots ++ blank :: rest).rdropWhile Text.isBlank := by
            obtain ⟨dot, others, rfl⟩ := List.exists_cons_of_ne_nil dotted
            rw [written, Text.strip_append areBlank, Text.strip_eq_rdropWhile, List.cons_append,
              List.dropWhile_cons_of_neg (by simp [begins])]
        _ = ((dots ++ [blank]) ++ rest).rdropWhile Text.isBlank := by rw [List.append_cons]
        _ = (dots ++ [blank]) ++ rest.rdropWhile Text.isBlank := Text.rdropWhile_append follows
        _ = dots ++ blank :: rest.rdropWhile Text.isBlank := List.append_cons .. |>.symm
    have apart : blank ≠ '.' := by
      rintro rfl
      simp [Text.isBlank] at isBlank
    refine ⟨blank.toLower, ?_, by rw [isBlank_toLower, isBlank]⟩
    rw [stripped, List.dropWhile_append_of_pos (by simpa using areDots),
      List.dropWhile_cons_of_neg (by simpa using apart)]
    rfl
  · rintro ⟨first, begins, isBlank⟩
    obtain ⟨blank, kept, rfl⟩ := Option.map_eq_some_iff.mp begins
    rw [isBlank_toLower] at isBlank
    obtain ⟨rest, undotted⟩ := List.head?_eq_some_iff.mp kept
    obtain ⟨front, back⟩ := Text.ends_strip Text.isBlank item.toList
    obtain ⟨blanks, behind, written, areBlank⟩ :=
      Text.exists_eq_append_strip Text.isBlank item.toList
    have split := List.takeWhile_append_dropWhile (p := (· = '.'))
      (l := Text.strip Text.isBlank item.toList)
    rw [undotted] at split
    rw [← split] at front back written
    refine ⟨blanks, _, blank, rest ++ behind, by simpa using written, areBlank, ?dotted, ?areDots,
      isBlank, ?follows⟩
    case dotted =>
      intro none
      rw [none] at front
      simp [isBlank] at front
    case areDots =>
      intro dot inside
      simpa using List.mem_takeWhile_imp inside
    case follows =>
      rcases List.eq_nil_or_concat rest with rfl | ⟨others, last, rfl⟩
      · simp [isBlank] at back
      · exact ⟨last, by simp, back last (by simp [List.getLast?_cons])⟩

theorem mem_parse_iff :
    extension ∈ parse list ↔
      extension ≠ "" ∧ ∃ item ∈ Text.fields ',' list, normal item = extension := by
  simp [parse, and_comm]

theorem isTidy_of_mem_parse (read : extension ∈ parse list) : IsTidy extension := by
  obtain ⟨nonempty, item, among, rfl⟩ := mem_parse_iff.mp read
  obtain ⟨characters, piece, rfl⟩ := List.mem_map.mp among
  apply isTidy_normal _ nonempty
  rw [String.toList_ofList]
  exact Text.separator_not_mem_of_mem_splitAt piece

theorem forall_isNormal_iff :
    (∀ extension ∈ parse list, IsNormal extension) ↔
      ∀ item ∈ Text.fields ',' list, ¬ HidesBlank item := by
  constructor
  · intro allNormal item among hidden
    obtain ⟨first, begins, isBlank⟩ := hidesBlank_iff.mp hidden
    have nonempty : normal item ≠ "" := by
      intro empty
      simp [empty] at begins
    have read : normal item ∈ parse list := mem_parse_iff.mpr ⟨nonempty, item, among, rfl⟩
    simp [(allNormal _ read).front first begins] at isBlank
  · intro plain extension read
    refine ⟨isTidy_of_mem_parse read, fun first begins => ?_⟩
    obtain ⟨-, item, among, rfl⟩ := mem_parse_iff.mp read
    by_contra isBlank
    exact plain item among (hidesBlank_iff.mpr ⟨first, begins, by simpa using isBlank⟩)

theorem parse_intercalate (commaless : ∀ extension ∈ extensions, ',' ∉ extension.toList) :
    parse (String.intercalate "," extensions) =
      (extensions.map normal).filter fun extension => !extension.isEmpty := by
  by_cases none : extensions = []
  · subst none
    rfl
  · have written : ",".toList = [','] := by decide
    have pieces : Text.fields ',' (String.intercalate "," extensions) = extensions := by
      rw [Text.fields, Text.splitAt_intercalate written commaless none, List.map_map]
      simp [Function.comp_def]
    rw [parse, pieces]

/-- Extensions are read as what they are exactly if this holds of each of them. An extension that is
read as nothing would make the list shorter. -/
theorem filter_normal_eq_iff (nonempty : ∀ extension ∈ extensions, extension ≠ "") :
    (extensions.map normal).filter (fun extension => !extension.isEmpty) = extensions ↔
      ∀ extension ∈ extensions, normal extension = extension := by
  have pointwise : extensions.map normal = extensions ↔
      ∀ extension ∈ extensions, normal extension = extension := by
    simpa using List.map_inj_left (l := extensions) (f := normal) (g := id)
  rw [← pointwise]
  constructor
  · intro same
    have lengths := congrArg List.length same
    have sizes : (extensions.map normal).length = extensions.length := List.length_map normal
    rw [← sizes] at lengths
    rwa [List.filter_eq_self.mpr (List.length_filter_eq_length_iff.mp lengths)] at same
  · intro same
    rw [same, List.filter_eq_self]
    simpa using nonempty

theorem again_iff :
    parse (String.intercalate "," (parse list)) = parse list ↔
      ∀ extension ∈ parse list, IsNormal extension := by
  have tidy : ∀ extension ∈ parse list, IsTidy extension := fun _ => isTidy_of_mem_parse
  rw [parse_intercalate fun extension read => (tidy extension read).commaless,
    filter_normal_eq_iff fun extension read => (tidy extension read).nonempty]
  constructor
  · intro same extension read
    exact ⟨tidy extension read, isBlank_front_of_normal_eq (same extension read)⟩
  · intro allNormal extension read
    exact (allNormal extension read).normal_eq

/-- **Normal forms.** What is read of a list of extensions is in normal form up to blanks at the
front of extensions. It has none there exactly if no item has a blank behind the dots at its
beginning, and exactly then reading it again gives the same. -/
theorem normalizes_iff (list : String) :
    (∀ extension ∈ parse list, IsTidy extension) ∧
      (Normalizes list ↔ ∀ item ∈ Text.fields ',' list, ¬ HidesBlank item) ∧
      (parse (String.intercalate "," (parse list)) = parse list ↔
        ∀ item ∈ Text.fields ',' list, ¬ HidesBlank item) := by
  refine ⟨fun _ => isTidy_of_mem_parse, ?_, again_iff.trans forall_isNormal_iff⟩
  constructor
  · intro normalizes
    exact forall_isNormal_iff.mp normalizes.normal
  · intro plain
    have allNormal := forall_isNormal_iff.mpr plain
    exact ⟨allNormal, again_iff.mpr allNormal⟩

/-- The blank in `. ts` is read as a part of the extension, and reading it again takes it away. -/
theorem not_normalizes_dottedBlank :
    parse ". ts" = [" ts"] ∧ parse " ts" = ["ts"] ∧ ¬ Normalizes ". ts" := by
  have read : parse ". ts" = [" ts"] := by decide +kernel
  refine ⟨read, by decide +kernel, fun normalizes => ?_⟩
  have again := normalizes.again
  rw [read] at again
  exact absurd again (by decide +kernel)

end PromiseDetection.Extensions

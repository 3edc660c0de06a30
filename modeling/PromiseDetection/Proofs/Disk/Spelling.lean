import Mathlib.Data.List.Basic
import PromiseDetection.Modules.Resolution
import PromiseDetection.Proofs.Text.Fields

/-!
Spellings of a path that lead to the same file.

A path is followed piece by piece. An empty piece and a dot only ask for a directory to stand in,
and so does whatever comes after them. So what a path with a name at its end leads to depends on its
parts alone, and two spellings of the canonical path of a file hold the same text.
-/

namespace PromiseDetection

namespace Text

theorem exists_front_intercalate (items : List String) (last : String) :
    ∃ front, '/' :: (String.intercalate "/" (items ++ [last])).toList =
      front ++ '/' :: last.toList := by
  induction items with
  | nil => exact ⟨[], by simp⟩
  | cons item rest inductionHypothesis =>
    obtain ⟨front, ends⟩ := inductionHypothesis
    refine ⟨'/' :: item.toList ++ front, ?_⟩
    rw [List.append_assoc, ← ends]
    cases rest <;> simp [String.toList_intercalate]

/-- Does a text end in a character that cannot end dots or an empty piece of a path? -/
def EndsInName (text : String) : Prop :=
  ∃ character, text.toList.getLast? = some character ∧ character ≠ '/' ∧ character ≠ '.'

theorem EndsInName.of_suffix {text last : String} {front : List Char}
    (suffix : text.toList = front ++ last.toList) (ends : EndsInName last) : EndsInName text := by
  obtain ⟨character, found, proper⟩ := ends
  exact ⟨character, by simp [suffix, List.getLast?_append, found], proper⟩

end Text

namespace Path

def IsBlank (piece : String) : Prop := piece = "" ∨ piece = "."

instance (piece : String) : Decidable (IsBlank piece) := inferInstanceAs (Decidable (_ ∨ _))

def pieces (path : Path) : List String := Text.fields '/' path.text

theorem map_text_partOf (piece : String) :
    (partOf piece).map PathPart.text = if IsBlank piece then [] else [piece] := by
  unfold partOf
  split
  · simp [IsBlank]
  · simp [IsBlank]
  · simp [IsBlank, PathPart.text]
  · next empty dot _ =>
    have proper : ¬ IsBlank piece := not_or.mpr ⟨empty, dot⟩
    simp [PathPart.text, proper]

theorem filter_pieces {path : Path} (absolute : path.isAbsolute = true) :
    path.pieces.filter (fun piece => ¬ IsBlank piece) = path.parts.tail.map PathPart.text := by
  have tail : path.parts.tail = path.pieces.flatMap partOf := by
    simp [parts, absolute, pieces]
  rw [tail, List.map_flatMap]
  simp only [map_text_partOf]
  induction path.pieces with
  | nil => rfl
  | cons piece rest inductionHypothesis =>
    by_cases blank : IsBlank piece <;> simp_all

theorem text_ne_empty {path : Path} (absolute : path.isAbsolute = true) :
    path.text.isEmpty = false := by
  by_contra empty
  have nothing : path.text = "" := by simpa using empty
  simp [isAbsolute, Text.startsWith, nothing] at absolute

theorem contains_iff {path : Path} :
    path.text.toList.contains '\x00' = true ↔
      ∃ piece ∈ path.pieces.filter (fun piece => ¬ IsBlank piece), '\x00' ∈ piece.toList := by
  rw [List.contains_iff_mem, Text.mem_iff_mem_splitAt (by decide : '\x00' ≠ '/')]
  constructor
  · rintro ⟨piece, membership, inside⟩
    refine ⟨String.ofList piece, List.mem_filter.mpr ⟨List.mem_map_of_mem membership, ?_⟩, by simpa⟩
    by_contra blank
    rcases (by simpa using blank : IsBlank (String.ofList piece)) with empty | dot
    · have none : piece = [] := by simpa using congrArg String.toList empty
      simp [none] at inside
    · have one : piece = ['.'] := by simpa using congrArg String.toList dot
      simp [one] at inside
  · rintro ⟨piece, kept, inside⟩
    obtain ⟨characters, membership, rfl⟩ := List.mem_map.mp (List.mem_filter.mp kept).1
    exact ⟨characters, membership, by simpa using inside⟩

theorem getLast?_pieces_of_endsInName {path : Path} (ends : Text.EndsInName path.text) :
    path.pieces.getLast? ≠ some ".." := by
  obtain ⟨character, found, slash, dot⟩ := ends
  obtain ⟨front, written⟩ := List.getLast?_eq_some_iff.mp found
  obtain ⟨start, last⟩ := Text.getLast?_splitAt_concat slash front
  intro up
  rw [pieces, Text.fields, written, List.getLast?_map, last, Option.map_some,
    Option.some.injEq] at up
  have letters : start ++ [character] = ['.', '.'] := by simpa using congrArg String.toList up
  have final : character = '.' := by simpa using congrArg List.getLast? letters
  exact dot final

theorem getLast?_pieces_of_fileName? {path : Path} {name : String}
    (named : path.fileName? = some name) : path.pieces.getLast? ≠ some ".." := by
  intro up
  obtain ⟨front, split⟩ := List.getLast?_eq_some_iff.mp up
  have last : path.parts.getLast? = some .up := by
    have written : Text.fields '/' path.text = front ++ [".."] := split
    simp [parts, written, partOf, ← List.append_assoc]
  simp [fileName?, last] at named

theorem exists_front_join (path inner : Path) :
    ∃ front, (path.join inner).text.toList = front ++ inner.text.toList := by
  unfold join
  split
  · exact ⟨[], rfl⟩
  · split
    · exact ⟨path.text.toList, by simp⟩
    · exact ⟨path.text.toList ++ ['/'], by simp⟩

theorem exists_front_ofParts (first : List PathPart) (name : String) :
    ∃ front, (ofParts (first ++ [.name name])).text.toList = front ++ name.toList := by
  obtain ⟨front, ends⟩ := Text.exists_front_intercalate (first.map PathPart.text) name
  have relative : ∃ front, (String.intercalate "/" (first.map PathPart.text ++ [name])).toList =
      front ++ name.toList := by
    cases front with
    | nil => exact ⟨[], by simpa using ends⟩
    | cons slash front => exact ⟨front ++ ['/'], by simpa using (List.cons.inj ends).2⟩
  cases first with
  | nil => exact ⟨[], by simp [ofParts, PathPart.text]⟩
  | cons part rest =>
    cases part with
    | root =>
      obtain ⟨front, ends⟩ := Text.exists_front_intercalate (rest.map PathPart.text) name
      exact ⟨front ++ ['/'], by simpa [ofParts, PathPart.text] using ends⟩
    | here | up | name => simpa [ofParts, PathPart.text] using relative

end Path

theorem Modules.getLast?_pieces_of_mem_candidates {directory candidate : Path} {specifier : String}
    (membership : candidate ∈ candidates directory specifier) :
    candidate.pieces.getLast? ≠ some ".." := by
  have known : ∀ extension ∈ probedExtensions ++ directoryFiles, Text.EndsInName extension := by
    simp [probedExtensions, directoryFiles, Text.EndsInName]
  have twins (extension? : Option String) :
      ∀ extension ∈ sourceTwins extension?, Text.EndsInName extension := by
    unfold sourceTwins
    split <;> simp [Text.EndsInName]
  rw [candidates, List.mem_append, List.mem_append] at membership
  rcases membership with (written | probed) | index
  · split at written
    · next script =>
      obtain ⟨name, named⟩ : ∃ name, (directory.join ⟨specifier⟩).fileName? = some name := by
        cases named : (directory.join ⟨specifier⟩).fileName? with
        | none => simp [Dialect.ofPath?, Path.extension?, named] at script
        | some name => exact ⟨name, rfl⟩
      rcases List.mem_cons.mp written with rfl | twin
      · exact Path.getLast?_pieces_of_fileName? named
      · obtain ⟨extension, among, rfl⟩ := List.mem_map.mp twin
        obtain ⟨front, ends⟩ := Path.exists_front_ofParts (directory.join ⟨specifier⟩).parts.dropLast
          ((Path.splitName name).1 ++ "." ++ extension)
        have suffix : ((directory.join ⟨specifier⟩).withExtension extension).text.toList =
            (front ++ (Path.splitName name).1.toList ++ ['.']) ++ extension.toList := by
          simp [Path.withExtension, named, ends]
        exact Path.getLast?_pieces_of_endsInName
          (Text.EndsInName.of_suffix suffix (twins _ extension among))
    · simp at written
  · obtain ⟨extension, among, rfl⟩ := List.mem_map.mp probed
    have suffix : ((directory.join ⟨specifier⟩).text ++ "." ++ extension).toList =
        ((directory.join ⟨specifier⟩).text.toList ++ ['.']) ++ extension.toList := by
      simp
    exact Path.getLast?_pieces_of_endsInName
      (Text.EndsInName.of_suffix suffix (known extension (List.mem_append_left _ among)))
  · obtain ⟨file, among, rfl⟩ := List.mem_map.mp index
    obtain ⟨front, ends⟩ := (directory.join ⟨specifier⟩).exists_front_join ⟨file⟩
    exact Path.getLast?_pieces_of_endsInName
      (Text.EndsInName.of_suffix ends (known file (List.mem_append_right _ among)))

namespace FileSystem

open PromiseDetection.Path (IsBlank)

variable {disk : FileSystem}

theorem follow_filter {place : Place} {pieces : List String}
    (last : ∀ piece, pieces.getLast? = some piece → ¬ IsBlank piece) :
    disk.follow place pieces =
      disk.follow place (pieces.filter fun piece => ¬ IsBlank piece) := by
  induction pieces generalizing place with
  | nil => rfl
  | cons piece rest inductionHypothesis =>
    have lastOfRest : ∀ other, rest.getLast? = some other → ¬ IsBlank other := by
      intro other found
      apply last other
      cases rest with
      | nil => simp at found
      | cons first more => simpa [List.getLast?_cons_cons] using found
    have within {start : Place} : disk.follow start rest =
        disk.follow start (rest.filter fun piece => ¬ IsBlank piece) :=
      inductionHypothesis lastOfRest
    by_cases blank : IsBlank piece
    · cases rest with
      | nil => exact absurd blank (last piece rfl)
      | cons first more =>
        obtain ⟨other, found⟩ : ∃ other, (first :: more).getLast? = some other := by
          simp [List.getLast?_cons]
        have kept : other ∈ (first :: more).filter fun piece => ¬ IsBlank piece :=
          List.mem_filter.mpr ⟨List.mem_of_getLast? found, by simpa using lastOfRest other found⟩
        obtain ⟨head, tail, split⟩ := List.exists_cons_of_ne_nil (List.ne_nil_of_mem kept)
        rw [List.filter_cons_of_neg (by simpa using blank), follow.eq_2, within, split]
        simp only [IsBlank] at blank
        cases stand : disk.at? place with
        | none => simp [follow, stand]
        | some content => cases content <;> simp [follow, stand, blank]
    · rw [List.filter_cons_of_pos (by simpa using blank)]
      simp only [follow, within]

theorem locate_eq_of_same {first second : Path} (absolute : first.isAbsolute = true)
    (other : second.isAbsolute = true)
    (firstEnds : ∀ piece, first.pieces.getLast? = some piece → ¬ IsBlank piece)
    (secondEnds : ∀ piece, second.pieces.getLast? = some piece → ¬ IsBlank piece)
    (same : first.same second = true) : disk.locate first = disk.locate second := by
  have parts : first.parts = second.parts := by simpa [Path.same] using same
  have kept : first.pieces.filter (fun piece => ¬ IsBlank piece) =
      second.pieces.filter (fun piece => ¬ IsBlank piece) := by
    rw [Path.filter_pieces absolute, Path.filter_pieces other, parts]
  have nul : first.text.toList.contains '\x00' = second.text.toList.contains '\x00' := by
    rw [Bool.eq_iff_iff, Path.contains_iff, Path.contains_iff, kept]
  have found : disk.follow [] first.pieces = disk.follow [] second.pieces := by
    rw [follow_filter firstEnds, follow_filter secondEnds, kept]
  simp only [Path.pieces] at found
  simp only [locate, nul, Path.text_ne_empty absolute, Path.text_ne_empty other, absolute, other,
    found, if_true]

theorem readText_eq_of_locate {first second : Path}
    (located : disk.locate first = disk.locate second) :
    disk.readText first = disk.readText second := by
  simp only [readText, readBytes, contentOf, located]

theorem exists_name_of_follow {start place : Place} {pieces : List String} {bytes : ByteArray}
    (came : disk.follow start pieces = .ok place) (file : disk.at? place = some (.file bytes))
    (nonempty : pieces ≠ []) (last : pieces.getLast? ≠ some "..") :
    ∃ front piece, place = front ++ [piece] ∧ piece ∈ pieces ∧ ¬ IsBlank piece := by
  induction pieces generalizing start with
  | nil => exact absurd rfl nonempty
  | cons piece rest inductionHypothesis =>
    have onward {next : Place} (came : disk.follow next rest = .ok place) (more : rest ≠ []) :
        ∃ front name, place = front ++ [name] ∧ name ∈ piece :: rest ∧ ¬ IsBlank name := by
      have lastOfRest : rest.getLast? ≠ some ".." := by
        cases rest with
        | nil => exact absurd rfl more
        | cons first others => simpa [List.getLast?_cons_cons] using last
      obtain ⟨front, name, ends, membership, proper⟩ := inductionHypothesis came more lastOfRest
      exact ⟨front, name, ends, List.mem_cons_of_mem piece membership, proper⟩
    rw [follow] at came
    split at came
    · simp at came
    · simp at came
    · next stands =>
      by_cases blank : piece = "" ∨ piece = "."
      · rw [if_pos blank] at came
        by_cases ends : rest = []
        · rw [ends, follow, Except.ok.injEq] at came
          simp [← came, stands] at file
        · exact onward came ends
      · rw [if_neg blank] at came
        by_cases up : piece = ".."
        · rw [if_pos up] at came
          refine onward came fun ends => last ?_
          rw [ends, up, List.getLast?_singleton]
        · rw [if_neg up] at came
          split at came
          · simp at came
          · split at came
            · simp at came
            · by_cases ends : rest = []
              · rw [ends, follow, Except.ok.injEq] at came
                exact ⟨start, piece, came.symm, List.mem_cons_self, blank⟩
              · exact onward came ends

theorem exists_place_of_isFile {path : Path} (file : disk.isFile path = true) :
    ∃ place bytes, disk.locate path = .ok place ∧ disk.at? place = some (.file bytes) := by
  unfold isFile contentOf at file
  cases located : disk.locate path with
  | error => simp [located, bind, Except.bind] at file
  | ok place =>
    cases lies : disk.at? place with
    | none => simp [located, lies, bind, Except.bind] at file
    | some content =>
      cases content with
      | file bytes => exact ⟨place, bytes, rfl, lies⟩
      | directory => simp [located, lies, bind, Except.bind] at file

theorem follow_of_locate {path : Path} {place : Place} (located : disk.locate path = .ok place) :
    disk.follow (if path.isAbsolute then [] else disk.workingDirectory) path.pieces =
      .ok place := by
  unfold locate at located
  split at located
  · simp at located
  · split at located
    · simp at located
    · exact located

theorem canonical_of_isFile {path : Path} (file : disk.isFile path = true)
    (last : path.pieces.getLast? ≠ some "..") :
    (disk.canonical path).isAbsolute = true ∧
      ∀ piece, (disk.canonical path).pieces.getLast? = some piece → ¬ IsBlank piece := by
  obtain ⟨place, bytes, located, lies⟩ := exists_place_of_isFile file
  have came := follow_of_locate located
  have nonempty : path.pieces ≠ [] := by
    simpa [Path.pieces, Text.fields] using Text.splitAt_ne_nil path.text.toList
  obtain ⟨front, piece, rfl, membership, proper⟩ := exists_name_of_follow came lies nonempty last
  obtain ⟨characters, among, rfl⟩ := List.mem_map.mp membership
  obtain ⟨start, ends⟩ := Text.exists_front_intercalate front (String.ofList characters)
  have written : (disk.canonical path).text.toList = start ++ '/' :: characters := by
    simpa [canonical, located, Path.ofNames, Path.ofParts, Function.comp_def, PathPart.text]
      using ends
  refine ⟨by simp [canonical, located, Path.ofNames, Path.ofParts, Path.isAbsolute,
    Text.startsWith], fun piece found => ?_⟩
  rw [Path.pieces, Text.fields, written, List.getLast?_map,
    Text.getLast?_splitAt_of_suffix (Text.separator_not_mem_of_mem_splitAt among)] at found
  rw [← Option.some.inj found]
  exact proper

/-- **Spelling.** Two specifiers that lead to spellings of one path lead to the same text. -/
theorem readText_of_resolve {directory other target found : Path} {specifier known : String}
    (resolved : Modules.resolve? disk directory specifier = some target)
    (resolvedToo : Modules.resolve? disk other known = some found)
    (same : target.same found = true) : disk.readText target = disk.readText found := by
  have canonical {directory target : Path} {specifier : String}
      (resolved : Modules.resolve? disk directory specifier = some target) :
      target.isAbsolute = true ∧
        ∀ piece, target.pieces.getLast? = some piece → ¬ IsBlank piece := by
    obtain ⟨candidate, chosen, rfl⟩ := Option.map_eq_some_iff.mp resolved
    exact canonical_of_isFile (List.find?_some chosen)
      (Modules.getLast?_pieces_of_mem_candidates (List.mem_of_find?_eq_some chosen))
  apply readText_eq_of_locate
  exact locate_eq_of_same (canonical resolved).1 (canonical resolvedToo).1 (canonical resolved).2
    (canonical resolvedToo).2 same

end FileSystem

end PromiseDetection

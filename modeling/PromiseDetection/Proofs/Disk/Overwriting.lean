import PromiseDetection.Proofs.Disk.Spelling

/-!
Disks that differ in the content of one file.

Two disks that agree but for the bytes of one file cannot be told apart by where their paths lead:
every path leads to the same place on both, and the same paths are files. Whoever reads another file
reads the same text. A canonical path leads to the place that it names or nowhere, so the canonical
path of one file never leads to the bytes of another one.
-/

namespace PromiseDetection

def Place.IsName (name : String) : Prop :=
  ¬ Path.IsBlank name ∧ name ≠ ".." ∧ '/' ∉ name.toList

instance (name : String) : Decidable (Place.IsName name) :=
  inferInstanceAs (Decidable (_ ∧ _ ∧ _))

open Place (IsName)

namespace Path

variable {place : Place} {piece : String}

theorem slash_not_mem_of_mem_pieces {path : Path} (membership : piece ∈ path.pieces) :
    '/' ∉ piece.toList := by
  obtain ⟨characters, among, rfl⟩ := List.mem_map.mp membership
  rw [String.toList_ofList]
  exact Text.separator_not_mem_of_mem_splitAt among

theorem filter_pieces_ofNames (named : ∀ name ∈ place, IsName name) :
    ".." ∉ (ofNames place).pieces ∧
      (ofNames place).pieces.filter (fun piece => ¬ IsBlank piece) = place := by
  have written : (ofNames place).text.toList =
      [] ++ '/' :: (String.intercalate "/" place).toList := by
    simp [ofNames, ofParts, Function.comp_def, PathPart.text]
  by_cases top : place = []
  · subst top
    decide +kernel
  · have slashless : ∀ name ∈ place, '/' ∉ name.toList :=
      fun name membership => (named name membership).2.2
    have split : (ofNames place).pieces = "" :: place := by
      rw [pieces, Text.fields, written, Text.splitAt_append_separator,
        Text.splitAt_intercalate rfl slashless top, List.map_append, List.map_map]
      simp [Text.splitAt, Function.comp_def]
    rw [split]
    constructor
    · intro membership
      rcases List.mem_cons.mp membership with blank | among
      · simp at blank
      · exact (named ".." among).2.1 rfl
    · rw [List.filter_cons_of_neg (by decide), List.filter_eq_self]
      exact fun name membership => decide_eq_true (named name membership).1

end Path

namespace FileSystem

variable {disk other : FileSystem} {place : Place} {path : Path}

theorem isName_of_follow {start found : Place} {pieces : List String}
    (came : disk.follow start pieces = .ok found) (slashless : ∀ piece ∈ pieces, '/' ∉ piece.toList)
    (named : ∀ name ∈ start, IsName name) : ∀ name ∈ found, IsName name := by
  induction pieces generalizing start with
  | nil =>
    rw [follow, Except.ok.injEq] at came
    exact came ▸ named
  | cons piece rest inductionHypothesis =>
    have later : ∀ piece ∈ rest, '/' ∉ piece.toList :=
      fun piece membership => slashless piece (List.mem_cons_of_mem _ membership)
    rw [follow] at came
    split at came
    · simp at came
    · simp at came
    · split at came
      · exact inductionHypothesis came later named
      · next proper =>
        split at came
        · apply inductionHypothesis came later
          exact fun name membership => named name (List.dropLast_subset _ membership)
        · next level =>
          split at came
          · simp at came
          · split at came
            · simp at came
            · apply inductionHypothesis came later
              intro name membership
              rcases List.mem_append.mp membership with before | own
              · exact named name before
              · obtain rfl := List.mem_singleton.mp own
                exact ⟨proper, level, slashless name List.mem_cons_self⟩

theorem eq_append_of_follow {start found : Place} {pieces : List String}
    (came : disk.follow start pieces = .ok found) (level : ".." ∉ pieces) :
    found = start ++ pieces.filter fun piece => ¬ Path.IsBlank piece := by
  induction pieces generalizing start with
  | nil =>
    rw [follow, Except.ok.injEq] at came
    simp [came]
  | cons piece rest inductionHypothesis =>
    rw [List.mem_cons, not_or] at level
    rw [follow] at came
    split at came
    · simp at came
    · simp at came
    · by_cases blank : piece = "" ∨ piece = "."
      · rw [if_pos blank] at came
        have dropped : Path.IsBlank piece := blank
        rw [inductionHypothesis came level.2, List.filter_cons_of_neg (by simpa using dropped)]
      · rw [if_neg blank, if_neg (Ne.symm level.1)] at came
        have kept : ¬ Path.IsBlank piece := blank
        split at came
        · simp at came
        · split at came
          · simp at came
          · rw [inductionHypothesis came level.2, List.filter_cons_of_pos (by simpa using kept),
              List.append_assoc]
            rfl

theorem eq_of_locate_ofNames {found : Place} (named : ∀ name ∈ place, IsName name)
    (located : disk.locate (Path.ofNames place) = .ok found) : found = place := by
  obtain ⟨level, kept⟩ := Path.filter_pieces_ofNames named
  have absolute : (Path.ofNames place).isAbsolute = true := by
    simp [Path.ofNames, Path.ofParts, Path.isAbsolute, Text.startsWith]
  have came := follow_of_locate located
  rw [if_pos absolute] at came
  rw [eq_append_of_follow came level, kept, List.nil_append]

/-- The disks are equal but for the bytes of the file at a place. They stand in one working
directory, whose place consists of names. -/
structure DiffersAt (disk other : FileSystem) (place : Place) : Prop where
  workingDirectory : disk.workingDirectory = other.workingDirectory
  named : ∀ name ∈ disk.workingDirectory, IsName name
  isFile : ∃ bytes, disk.at? place = some (.file bytes)
  isFileToo : ∃ bytes, other.at? place = some (.file bytes)
  elsewhere : ∀ there, there ≠ place → disk.at? there = other.at? there

namespace DiffersAt

variable (differs : disk.DiffersAt other place)

include differs

theorem at?_cases (there : Place) :
    disk.at? there = other.at? there ∨
      ∃ bytes more, disk.at? there = some (.file bytes) ∧ other.at? there = some (.file more) := by
  by_cases here : there = place
  · obtain ⟨bytes, found⟩ := differs.isFile
    obtain ⟨more, foundToo⟩ := differs.isFileToo
    exact Or.inr ⟨bytes, more, here ▸ found, here ▸ foundToo⟩
  · exact Or.inl (differs.elsewhere there here)

theorem follow_eq (start : Place) (pieces : List String) :
    disk.follow start pieces = other.follow start pieces := by
  induction pieces generalizing start with
  | nil => rfl
  | cons piece rest inductionHypothesis =>
    rw [follow, follow]
    rcases differs.at?_cases start with same | ⟨bytes, more, found, foundToo⟩
    · rw [same]
      simp only [inductionHypothesis]
      rcases differs.at?_cases (start ++ [piece]) with sameToo | ⟨bytes, more, lies, liesToo⟩
      · rw [sameToo]
      · rw [lies, liesToo]
    · rw [found, foundToo]

theorem locate_eq (path : Path) : disk.locate path = other.locate path := by
  simp only [locate, differs.follow_eq, differs.workingDirectory]

theorem canonical_eq (path : Path) : disk.canonical path = other.canonical path := by
  simp only [canonical, differs.locate_eq]

theorem isFile_eq (path : Path) : disk.isFile path = other.isFile path := by
  simp only [FileSystem.isFile, contentOf, differs.locate_eq]
  cases other.locate path with
  | error => rfl
  | ok found =>
    simp only [bind, Except.bind]
    rcases differs.at?_cases found with same | ⟨bytes, more, lies, liesToo⟩
    · rw [same]
    · rw [lies, liesToo]

theorem resolve?_eq (directory : Path) (specifier : String) :
    Modules.resolve? disk directory specifier = Modules.resolve? other directory specifier := by
  simp only [Modules.resolve?, funext differs.isFile_eq, funext differs.canonical_eq]

theorem readText_eq (elsewhere : disk.locate path ≠ .ok place) :
    disk.readText path = other.readText path := by
  simp only [readText, readBytes, contentOf, ← differs.locate_eq]
  cases located : disk.locate path with
  | error => rfl
  | ok found =>
    have apart : found ≠ place := fun here => elsewhere (here ▸ located)
    simp only [bind, Except.bind, differs.elsewhere found apart]

theorem isName_of_locate {found : Place} (located : disk.locate path = .ok found) :
    ∀ name ∈ found, IsName name := by
  apply isName_of_follow (follow_of_locate located) fun _ => Path.slash_not_mem_of_mem_pieces
  by_cases absolute : path.isAbsolute = true
  · simp [absolute]
  · simpa [absolute] using differs.named

theorem readText_of_resolve {directory target : Path} {specifier : String}
    (resolved : Modules.resolve? disk directory specifier = some target)
    (apart : target ≠ Path.ofNames place) : disk.readText target = other.readText target := by
  obtain ⟨candidate, chosen, rfl⟩ := Option.map_eq_some_iff.mp resolved
  obtain ⟨found, _, located, _⟩ := exists_place_of_isFile (List.find?_some chosen)
  have canonical : disk.canonical candidate = Path.ofNames found := by
    simp only [FileSystem.canonical, located]
  rw [canonical] at apart ⊢
  apply differs.readText_eq
  intro here
  have same : place = found := eq_of_locate_ofNames (differs.isName_of_locate located) here
  exact apart (same ▸ rfl)

end DiffersAt

end FileSystem

end PromiseDetection

import PromiseDetection.Analysis.Spans
import PromiseDetection.Proofs.Disk.Overwriting
import PromiseDetection.Proofs.Modules.BreadthFirst

/-!
The analysed text counts, whatever the disk holds at its path.

The file of the analysed text is known as module 0 before any import is followed, and it stays
known. So an import that leads back to it, in whatever spelling, becomes a link, and only other
files are read. Two disks that differ in the content of that file alone therefore give one module
graph, and one analysis.
-/

namespace PromiseDetection

variable {grammar : Grammar} {disk other : FileSystem} {place : Place}

theorem foldl_eq_of_keeps {State Item : Type} {kept : State → Prop}
    {step otherStep : State → Item → State}
    (keeps : ∀ state item, kept state → kept (step state item))
    (same : ∀ state item, kept state → step state item = otherStep state item)
    (items : List Item) {start : State} (holds : kept start) :
    kept (items.foldl step start) ∧ items.foldl step start = items.foldl otherStep start := by
  induction items generalizing start with
  | nil => exact ⟨holds, rfl⟩
  | cons item rest inductionHypothesis =>
    rw [List.foldl_cons, List.foldl_cons, ← same start item holds]
    exact inductionHypothesis (keeps start item holds)

namespace ModuleGraph

namespace Loading

variable {loading : Loading}

def Knows (loading : Loading) (place : Place) : Prop :=
  ∃ module, (Path.ofNames place, module) ∈ loading.loaded

theorem Knows.follow (known : loading.Knows place) (module : Nat) (directory : Path)
    (specifier : String) :
    (loading.follow grammar disk module directory specifier).Knows place := by
  obtain ⟨id, membership⟩ := known
  have step := follows_follow grammar disk module directory loading specifier
  generalize loading.follow grammar disk module directory specifier = after at step ⊢
  cases step with
  | nowhere | known | passed => exact ⟨id, membership⟩
  | read => exact ⟨id, List.mem_cons_of_mem _ membership⟩

theorem Knows.follow_eq (known : loading.Knows place) (differs : disk.DiffersAt other place)
    (module : Nat) (directory : Path) (specifier : String) :
    loading.follow grammar disk module directory specifier =
      loading.follow grammar other module directory specifier := by
  unfold Loading.follow
  rw [← differs.resolve?_eq]
  cases resolved : Modules.resolve? disk directory specifier with
  | none => rfl
  | some target =>
    dsimp only
    cases found : loading.loaded.find? fun known => known.1.same target with
    | some entry => rfl
    | none =>
      have apart : target ≠ Path.ofNames place := by
        rintro rfl
        obtain ⟨id, membership⟩ := known
        have new := List.find?_eq_none.mp found _ membership
        simp [Path.same] at new
      rw [differs.readText_of_resolve resolved apart]

theorem Knows.foldl_follow (known : loading.Knows place) (differs : disk.DiffersAt other place)
    (module : Nat) (directory : Path) (specifiers : List String) :
    (specifiers.foldl (Loading.follow grammar disk module directory) loading).Knows place ∧
      specifiers.foldl (Loading.follow grammar disk module directory) loading =
        specifiers.foldl (Loading.follow grammar other module directory) loading := by
  have keeps (loading : Loading) (specifier : String) (known : loading.Knows place) :
      (loading.follow grammar disk module directory specifier).Knows place :=
    known.follow module directory specifier
  exact foldl_eq_of_keeps keeps
    (fun _ specifier known => known.follow_eq differs module directory specifier) specifiers known

theorem Knows.visit (known : loading.Knows place) (differs : disk.DiffersAt other place)
    (module : Nat) :
    (loading.visit grammar disk module).Knows place ∧
      loading.visit grammar disk module = loading.visit grammar other module := by
  unfold Loading.visit
  split
  · dsimp only
    split
    · exact ⟨known, rfl⟩
    · exact known.foldl_follow differs module _ _
  · exact ⟨known, rfl⟩

theorem Knows.foldl_visit_eq (known : loading.Knows place) (differs : disk.DiffersAt other place)
    (modules : List Nat) :
    modules.foldl (Loading.visit grammar disk) loading =
      modules.foldl (Loading.visit grammar other) loading := by
  have keeps (loading : Loading) (module : Nat) (known : loading.Knows place) :
      (loading.visit grammar disk module).Knows place := (known.visit differs module).1
  exact (foldl_eq_of_keeps keeps (fun _ module known => (known.visit differs module).2)
    modules known).2

end Loading

/-- A unit has the same module graph on disks that differ in its own file alone. -/
theorem build_eq_of_differsAt {unit : SourceUnit} {path : Path} (named : unit.path? = some path)
    (located : disk.locate path = .ok place) (differs : disk.DiffersAt other place) :
    build grammar disk unit = build grammar other unit := by
  have canonical : disk.canonical path = Path.ofNames place := by
    simp only [FileSystem.canonical, located]
  have known : (Loading.start disk unit path).Knows place :=
    ⟨0, by simp [Loading.start, canonical]⟩
  have visited :
      (List.range moduleLimit).foldl (Loading.visit grammar disk) (.start disk unit path) =
        (List.range moduleLimit).foldl (Loading.visit grammar other) (.start disk unit path) :=
    known.foldl_visit_eq differs (List.range moduleLimit)
  rw [Loading.start] at visited
  unfold build
  simp only [named, ← differs.canonical_eq, visited]

end ModuleGraph

/-- **Freshness.** What the disk holds in the file of the analysed text makes no difference. -/
theorem analyze_eq_of_differsAt {path : Path} (located : disk.locate path = .ok place)
    (differs : disk.DiffersAt other place) (text : String) (mode : Mode) (flag : Flag) :
    analyze grammar disk text (some path) mode flag =
      analyze grammar other text (some path) mode flag := by
  have graph : ModuleGraph.build grammar disk (SourceUnit.parse grammar text (some path)) =
      ModuleGraph.build grammar other (SourceUnit.parse grammar text (some path)) :=
    ModuleGraph.build_eq_of_differsAt rfl located differs
  have spans : (SourceUnit.parse grammar text (some path)).spans grammar disk mode =
      (SourceUnit.parse grammar text (some path)).spans grammar other mode := by
    cases mode <;> simp only [SourceUnit.spans, SourceUnit.semanticSpans, graph]
  rw [analyze, analyze, spans]

def changedDisk : FileSystem where
  workingDirectory := ["work"]
  entries := [(["work", "main.ts"], .file "export async function main() \x7b\x7d".toUTF8)]

theorem differsAt_changedDisk :
    ModuleGraph.selfImportDisk.DiffersAt changedDisk ["work", "main.ts"] where
  workingDirectory := rfl
  named := by decide
  isFile := ⟨_, rfl⟩
  isFileToo := ⟨_, rfl⟩
  elsewhere there apart := by
    simp [FileSystem.at?, ModuleGraph.selfImportDisk, changedDisk, List.lookup_cons,
      beq_eq_false_iff_ne.mpr apart]

theorem analyze_eq_of_differsAt_selfImport :
    ModuleGraph.selfImportDisk.locate ⟨"main.ts"⟩ = .ok ["work", "main.ts"] ∧
      ModuleGraph.selfImportDisk.DiffersAt changedDisk ["work", "main.ts"] ∧
        analyze (fun _ _ => ModuleGraph.selfImport.tree) ModuleGraph.selfImportDisk
            "import './main'" (some ⟨"main.ts"⟩) .hybrid .lowered =
          analyze (fun _ _ => ModuleGraph.selfImport.tree) changedDisk
            "import './main'" (some ⟨"main.ts"⟩) .hybrid .lowered := by
  have located : ModuleGraph.selfImportDisk.locate ⟨"main.ts"⟩ = .ok ["work", "main.ts"] := by
    decide +kernel
  exact ⟨located, differsAt_changedDisk,
    analyze_eq_of_differsAt located differsAt_changedDisk "import './main'" .hybrid .lowered⟩

end PromiseDetection

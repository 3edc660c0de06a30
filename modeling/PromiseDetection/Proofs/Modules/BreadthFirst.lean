import Mathlib.Data.Nat.Find
import PromiseDetection.Proofs.Modules.Loading

/-!
The module graph of a unit is a breadth-first part of what it imports.

A queue of modules that begins with the unit runs empty, whatever imports whatever. The graph that
is left has a link exactly where a specifier leads to the file of a module, no two modules come from
one file, and the modules are numbered in the order of their distance from the unit. What is left
out though it can be read is no closer than what is kept.
-/

namespace PromiseDetection.ModuleGraph

inductive ReachedIn (graph : ModuleGraph) : (links : Nat) → (module : Nat) → Prop where
  | root : ReachedIn graph 0 0
  | link {links module target : Nat} {specifier : String} (reached : ReachedIn graph links module)
      (linked : graph.target? module specifier = some target) :
      ReachedIn graph (links + 1) target

def IsDistance (graph : ModuleGraph) (module distance : Nat) : Prop :=
  graph.ReachedIn distance module ∧ ∀ links, graph.ReachedIn links module → distance ≤ links

/-- A graph of the modules that module 0 reaches by relative imports on a disk. -/
structure IsImportGraph (grammar : Grammar) (disk : FileSystem) (graph : ModuleGraph) : Prop where
  size_le : graph.size ≤ moduleLimit
  exists_file : ∀ {module}, module < graph.size → ∃ file, graph.fileOf? disk module = some file
  file_injective : ∀ {module other file known}, module < graph.size → other < graph.size →
    graph.fileOf? disk module = some file → graph.fileOf? disk other = some known →
      file.same known = true → module = other
  parsed : ∀ {module}, 0 < module → module < graph.size → ∃ file text replaced,
    graph.fileOf? disk module = some file ∧ disk.readText file = .ok (text, replaced) ∧
      graph.unit module = SourceUnit.parse grammar text (some file)
  target_iff : ∀ {module specifier target}, module < graph.size →
    (graph.unit module).Imports specifier → target < graph.size →
      (graph.target? module specifier = some target ↔
        ∃ found file, graph.leadsTo? disk module specifier = some found ∧
          graph.fileOf? disk target = some file ∧ file.same found = true)
  own_file : ∀ {module specifier found file}, module < graph.size →
    (graph.unit module).Imports specifier → graph.leadsTo? disk module specifier = some found →
      graph.fileOf? disk 0 = some file → file.same found = true →
        graph.target? module specifier = some 0
  linked : ∀ {module specifier target}, graph.target? module specifier = some target →
    module < graph.size ∧ target < graph.size ∧ (graph.unit module).Imports specifier
  imported : ∀ {target}, 0 < target → target < graph.size →
    ∃ module specifier, module < target ∧ graph.target? module specifier = some target
  exists_distance : ∀ {module}, module < graph.size → ∃ distance, graph.IsDistance module distance
  distance_mono : ∀ {module later distance other}, module ≤ later → later < graph.size →
    graph.IsDistance module distance → graph.IsDistance later other → distance ≤ other
  left_out : ∀ {module specifier found}, module < graph.size →
    (graph.unit module).Imports specifier → graph.leadsTo? disk module specifier = some found →
      graph.target? module specifier = none →
        (∃ error, disk.readText found = .error error) ∨
          (graph.size = moduleLimit ∧ ∀ {kept distance other}, kept < graph.size →
            graph.IsDistance module distance → graph.IsDistance kept other →
              other ≤ distance + 1)

namespace Loading

def start (disk : FileSystem) (unit : SourceUnit) (path : Path) : Loading where
  graph := { root := unit, imports := #[], links := [] }
  loaded := [(disk.canonical path, 0)]

/-- Visits the modules of a queue, first come, first served, until none is left. The modules that a
visit adds go to the end. -/
inductive Drains (grammar : Grammar) (disk : FileSystem) : List Nat → Loading → Loading → Prop where
  | empty (loading : Loading) : Drains grammar disk [] loading loading
  | visit {module : Nat} {rest : List Nat} {loading drained : Loading}
      (onward : Drains grammar disk
        (rest ++ List.range' loading.graph.size
          ((loading.visit grammar disk module).graph.size - loading.graph.size))
        (loading.visit grammar disk module) drained) :
      Drains grammar disk (module :: rest) loading drained

variable {grammar : Grammar} {disk : FileSystem} {unit : SourceUnit} {loading : Loading}

theorem size_le_visit (module : Nat) :
    loading.graph.size ≤ (loading.visit grammar disk module).graph.size := by
  unfold visit
  split
  · dsimp only
    split
    · exact Nat.le_refl _
    · exact (foldl_keeps grammar disk module _ loading _).1
  · exact Nat.le_refl _

theorem foldl_visit_of_size_le {modules : List Nat}
    (outside : ∀ module ∈ modules, loading.graph.size ≤ module) :
    modules.foldl (Loading.visit grammar disk) loading = loading := by
  induction modules with
  | nil => rfl
  | cons module rest inductionHypothesis =>
    have absent : ¬ module < loading.graph.size :=
      Nat.not_lt.mpr (outside module List.mem_cons_self)
    have idle : loading.visit grammar disk module = loading := if_neg absent
    rw [List.foldl_cons, idle]
    exact inductionHypothesis fun module later => outside module (List.mem_cons_of_mem _ later)

/-- The queue runs empty if there are rounds enough for all modules. -/
theorem drains_foldl (rounds next : Nat) (within : next ≤ loading.graph.size)
    (enough : ((List.range' next rounds).foldl (Loading.visit grammar disk) loading).graph.size ≤
      next + rounds) :
    Drains grammar disk (List.range' next (loading.graph.size - next)) loading
      ((List.range' next rounds).foldl (Loading.visit grammar disk) loading) := by
  induction rounds generalizing next loading with
  | zero =>
    have none : loading.graph.size - next = 0 := Nat.sub_eq_zero_of_le enough
    rw [none]
    exact .empty loading
  | succ rounds inductionHypothesis =>
    rcases Nat.eq_or_lt_of_le within with rfl | inside
    · rw [Nat.sub_self, foldl_visit_of_size_le fun module later => (List.mem_range'_1.mp later).1]
      exact .empty loading
    · obtain ⟨waiting, more⟩ : ∃ waiting, loading.graph.size - next = waiting + 1 :=
        ⟨loading.graph.size - next - 1, by omega⟩
      have grows : loading.graph.size ≤ (loading.visit grammar disk next).graph.size :=
        size_le_visit next
      rw [List.range'_succ, List.foldl_cons] at enough ⊢
      rw [more, List.range'_succ]
      have queue : List.range' (next + 1) waiting ++ List.range' loading.graph.size
          ((loading.visit grammar disk next).graph.size - loading.graph.size) =
            List.range' (next + 1) ((loading.visit grammar disk next).graph.size - (next + 1)) := by
        have last : loading.graph.size = next + 1 + waiting := by omega
        rw [last, List.range'_append_1, ← last]
        congr 1
        omega
      refine .visit (queue ▸ inductionHypothesis (next + 1) ?_ ?_)
      · omega
      · omega

theorem progress_start {path : Path} (named : unit.path? = some path) :
    Progress grammar disk unit 0 (fun module _ => module < 0) (start disk unit path) where
  past before := absurd before (Nat.not_lt_zero _)
  filed :=
    { root := rfl
      size_le := show 1 ≤ moduleLimit by decide
      exists_file := by
        intro module inside
        obtain rfl : module = 0 := Nat.lt_one_iff.mp inside
        exact ⟨disk.canonical path, List.mem_singleton_self _⟩
      fileOf := by
        intro file module membership
        obtain ⟨rfl, rfl⟩ := Prod.mk.inj (List.mem_singleton.mp membership)
        exact ⟨Nat.one_pos, by simp [fileOf?, start, named]⟩
      injective := by
        intro file other module id membership otherMembership _
        obtain ⟨_, rfl⟩ := Prod.mk.inj (List.mem_singleton.mp membership)
        obtain ⟨_, rfl⟩ := Prod.mk.inj (List.mem_singleton.mp otherMembership)
        rfl
      parsed := by
        intro file module membership imported
        exact absurd (Prod.mk.inj (List.mem_singleton.mp membership)).2 imported }
  linked :=
    { source_le := fun membership => absurd membership List.not_mem_nil
      sound := fun membership => absurd membership List.not_mem_nil
      imported := by
        intro target positive inside
        exact absurd (Nat.lt_one_iff.mp inside) (Nat.ne_of_gt positive)
      ordered := fun membership => absurd membership List.not_mem_nil }
  settled before := absurd before (Nat.not_lt_zero _)

theorem target?_eq_some_iff {current : Nat} (filed : Filed grammar disk unit loading)
    (linked : Linked disk current loading.graph) {module target : Nat} {specifier : String} :
    loading.graph.target? module specifier = some target ↔
      ((module, specifier), target) ∈ loading.graph.links := by
  have inLinks {found : Nat} (looked : loading.graph.target? module specifier = some found) :
      ((module, specifier), found) ∈ loading.graph.links := by
    obtain ⟨before, after, split, _⟩ := List.lookup_eq_some_iff.mp looked
    simp [split]
  refine ⟨inLinks, fun membership => ?_⟩
  cases looked : loading.graph.target? module specifier with
  | none =>
    have absent := List.lookup_eq_none_iff.mp looked _ membership
    simp at absent
  | some found =>
    obtain ⟨_, inside, _, path, file, leads, filedFound, same⟩ := linked.sound (inLinks looked)
    obtain ⟨_, insideToo, _, again, other, leadsToo, filedTarget, sameToo⟩ :=
      linked.sound membership
    obtain rfl := Option.some.inj (leads.symm.trans leadsToo)
    obtain ⟨known, listed⟩ := filed.exists_file found inside
    obtain ⟨knownToo, listedToo⟩ := filed.exists_file target insideToo
    obtain rfl := Option.some.inj (filedFound.symm.trans (filed.fileOf listed).2)
    obtain rfl := Option.some.inj (filedTarget.symm.trans (filed.fileOf listedToo).2)
    have alike : file.same other = true := by simp_all [Path.same]
    rw [filed.injective listed listedToo alike]

end Loading

section

variable {graph : ModuleGraph}

/-- If links are made in the order of the modules, no module is closer than an earlier one. -/
theorem ReachedIn.of_le
    (ordered : ∀ {module specifier target}, graph.target? module specifier = some target →
      ∀ earlier, 0 < earlier → earlier ≤ target → ∃ first known, first ≤ module ∧
        graph.target? first known = some earlier)
    {links module : Nat} (reached : graph.ReachedIn links module) {earlier : Nat}
    (before : earlier ≤ module) : ∃ fewer, fewer ≤ links ∧ graph.ReachedIn fewer earlier := by
  induction reached generalizing earlier with
  | root =>
    obtain rfl := Nat.le_zero.mp before
    exact ⟨0, Nat.le_refl 0, .root⟩
  | @link links module target specifier reached linked inductionHypothesis =>
    rcases Nat.eq_zero_or_pos earlier with rfl | positive
    · exact ⟨0, Nat.zero_le _, .root⟩
    · obtain ⟨first, known, le, linkedFirst⟩ := ordered linked earlier positive before
      obtain ⟨fewer, few, reachedFirst⟩ := inductionHypothesis le
      exact ⟨fewer + 1, Nat.succ_le_succ few, .link reachedFirst linkedFirst⟩

theorem exists_isDistance
    (imported : ∀ target, 0 < target → target < graph.size → ∃ module specifier,
      module < target ∧ graph.target? module specifier = some target)
    {module : Nat} (inside : module < graph.size) :
    ∃ distance, graph.IsDistance module distance := by
  have reached : ∃ links, graph.ReachedIn links module := by
    induction module using Nat.strong_induction_on with
    | _ module inductionHypothesis =>
      rcases Nat.eq_zero_or_pos module with rfl | positive
      · exact ⟨0, .root⟩
      · obtain ⟨first, known, before, linkedFirst⟩ := imported module positive inside
        obtain ⟨links, reached⟩ := inductionHypothesis first before (Nat.lt_trans before inside)
        exact ⟨links + 1, .link reached linkedFirst⟩
  classical
  exact ⟨Nat.find reached, Nat.find_spec reached, fun links found => Nat.find_min' reached found⟩

end

variable {grammar : Grammar} {disk : FileSystem} {unit : SourceUnit} {loading : Loading}

/-- When all modules have been visited, the graph is the import graph. -/
theorem Loading.Progress.isImportGraph
    (progress : Loading.Progress grammar disk unit moduleLimit
      (fun module _ => module < moduleLimit) loading) :
    loading.graph.IsImportGraph grammar disk := by
  obtain ⟨_, filed, linked, settled⟩ := progress
  have lookup {module target : Nat} {specifier : String} :
      loading.graph.target? module specifier = some target ↔
        ((module, specifier), target) ∈ loading.graph.links :=
    Loading.target?_eq_some_iff filed linked
  have visited {module : Nat} (inside : module < loading.graph.size) : module < moduleLimit :=
    Nat.lt_of_lt_of_le inside filed.size_le
  have listed {module : Nat} {file : Path} (inside : module < loading.graph.size)
      (found : loading.graph.fileOf? disk module = some file) : (file, module) ∈ loading.loaded := by
    obtain ⟨known, membership⟩ := filed.exists_file module inside
    obtain rfl := Option.some.inj (found.symm.trans (filed.fileOf membership).2)
    exact membership
  have imported (target : Nat) (positive : 0 < target) (inside : target < loading.graph.size) :
      ∃ module specifier, module < target ∧
        loading.graph.target? module specifier = some target := by
    obtain ⟨module, specifier, before, membership⟩ := linked.imported target positive inside
    exact ⟨module, specifier, before, lookup.mpr membership⟩
  have ordered {module target : Nat} {specifier : String}
      (found : loading.graph.target? module specifier = some target) (earlier : Nat)
      (positive : 0 < earlier) (before : earlier ≤ target) : ∃ first known, first ≤ module ∧
        loading.graph.target? first known = some earlier := by
    obtain ⟨first, known, le, membership⟩ :=
      linked.ordered (lookup.mp found) earlier positive before
    exact ⟨first, known, le, lookup.mpr membership⟩
  have target_iff {module target : Nat} {specifier : String} (inside : module < loading.graph.size)
      (written : (loading.graph.unit module).Imports specifier)
      (targetInside : target < loading.graph.size) :
      loading.graph.target? module specifier = some target ↔
        ∃ found file, loading.graph.leadsTo? disk module specifier = some found ∧
          loading.graph.fileOf? disk target = some file ∧ file.same found = true := by
    constructor
    · intro found
      obtain ⟨_, _, _, path, file, leads, known, same⟩ := linked.sound (lookup.mp found)
      exact ⟨path, file, leads, known, same⟩
    · rintro ⟨path, file, leads, known, same⟩
      rcases settled (visited inside) inside written leads with ⟨other, membership⟩ | ⟨new, _⟩
      · obtain ⟨_, otherInside, _, again, otherFile, leadsToo, otherKnown, otherSame⟩ :=
          linked.sound membership
        obtain rfl := Option.some.inj (leads.symm.trans leadsToo)
        have alike : otherFile.same file = true := by simp_all [Path.same]
        rw [← filed.injective (listed otherInside otherKnown) (listed targetInside known) alike]
        exact lookup.mpr membership
      · have apart := new _ (listed targetInside known)
        simp [same] at apart
  constructor
  case size_le => exact filed.size_le
  case exists_file =>
    intro module inside
    obtain ⟨file, membership⟩ := filed.exists_file module inside
    exact ⟨file, (filed.fileOf membership).2⟩
  case file_injective =>
    intro module other file known inside insideToo found foundToo same
    exact filed.injective (listed inside found) (listed insideToo foundToo) same
  case parsed =>
    intro module positive inside
    obtain ⟨file, membership⟩ := filed.exists_file module inside
    obtain ⟨_, text, replaced, readable, parsed⟩ :=
      filed.parsed membership (Nat.ne_of_gt positive)
    exact ⟨file, text, replaced, (filed.fileOf membership).2, readable, parsed⟩
  case target_iff =>
    intro module specifier target
    exact target_iff
  case own_file =>
    intro module specifier found file inside written leads filedRoot same
    exact (target_iff inside written (Nat.succ_pos _)).mpr ⟨found, file, leads, filedRoot, same⟩
  case linked =>
    intro module specifier target found
    obtain ⟨inside, targetInside, imports, _⟩ := linked.sound (lookup.mp found)
    exact ⟨inside, targetInside, imports⟩
  case imported =>
    intro target positive inside
    exact imported target positive inside
  case exists_distance =>
    intro module inside
    exact exists_isDistance imported inside
  case distance_mono =>
    intro module later distance other before inside first second
    obtain ⟨fewer, few, reached⟩ := second.1.of_le ordered before
    exact Nat.le_trans (first.2 fewer reached) few
  case left_out =>
    intro module specifier path inside written leads absent
    rcases settled (visited inside) inside written leads with ⟨other, membership⟩ | ⟨_, reason⟩
    · simp [lookup.mpr membership] at absent
    · rcases reason with unreadable | ⟨full, early⟩
      · exact Or.inl unreadable
      · refine Or.inr ⟨Nat.le_antisymm filed.size_le full, ?_⟩
        intro kept distance other keptInside near far
        rcases Nat.eq_zero_or_pos kept with rfl | positive
        · exact Nat.le_trans (far.2 0 .root) (Nat.zero_le _)
        · obtain ⟨first, known, le, membership⟩ := early kept positive keptInside
          obtain ⟨fewer, few, reached⟩ := near.1.of_le ordered le
          exact Nat.le_trans (far.2 _ (.link reached (lookup.mpr membership)))
            (Nat.succ_le_succ few)

/-- **Module graphs.** A unit with a script file has a module graph. The queue of modules that
begins with the unit runs empty and leaves this graph, whose module 0 is the unit and whose links
are the imports that lead to the files of its modules. -/
theorem build_isImportGraph {path : Path} (named : unit.path? = some path)
    (script : (Dialect.ofPath? path).isSome = true) :
    ∃ drained : Loading,
      Loading.Drains grammar disk [0] (Loading.start disk unit path) drained ∧
        build grammar disk unit = .ok drained.graph ∧ drained.graph.root = unit ∧
          drained.graph.fileOf? disk 0 = some (disk.canonical path) ∧
            drained.graph.IsImportGraph grammar disk := by
  have begun : Loading.Progress grammar disk unit 0 (fun module _ => module < 0)
      (Loading.start disk unit path) := Loading.progress_start named
  have progress := begun.run moduleLimit
  have size_le := progress.filed.size_le
  refine ⟨(List.range moduleLimit).foldl (Loading.visit grammar disk)
    (Loading.start disk unit path), ?_, ?_, progress.filed.root, ?_, progress.isImportGraph⟩
  · rw [List.range_eq_range'] at size_le ⊢
    exact Loading.drains_foldl moduleLimit 0 (Nat.zero_le _) (by simpa using size_le)
  · unfold build
    simp only [named]
    rw [if_neg (by simpa using Option.isSome_iff_ne_none.mp script)]
    rfl
  · rw [fileOf?, if_pos rfl, progress.filed.root, named, Option.map_some]

def selfImportNodes : Array Node :=
  #[⟨.program, true, none, 0, 15, none⟩, ⟨.importStatement, true, none, 0, 15, some 0⟩,
    ⟨.other "import", false, none, 0, 6, some 1⟩,
    ⟨.stringLiteral, true, some .source, 7, 15, some 1⟩,
    ⟨.other "\x27", false, none, 7, 8, some 3⟩, ⟨.stringFragment, true, none, 8, 14, some 3⟩,
    ⟨.other "\x27", false, none, 14, 15, some 3⟩]

def selfImport : SourceUnit where
  document :=
    { text := "import './main'"
      tree :=
        { nodes := selfImportNodes
          ends := Tree.endsOf selfImportNodes
          nonempty := by decide +kernel
          ends_size := by decide +kernel
          nested := by decide +kernel } }
  path? := some ⟨"main.ts"⟩
  dialect := .typeScript

def selfImportDisk : FileSystem where
  workingDirectory := ["work"]
  entries := [(["work", "main.ts"], .file selfImport.document.text.toUTF8)]

theorem build_isImportGraph_selfImport :
    selfImport.path? = some ⟨"main.ts"⟩ ∧ (Dialect.ofPath? ⟨"main.ts"⟩).isSome = true ∧
      ∃ drained : Loading,
        Loading.Drains (fun _ _ => selfImport.tree) selfImportDisk [0]
          (Loading.start selfImportDisk selfImport ⟨"main.ts"⟩) drained ∧
        build (fun _ _ => selfImport.tree) selfImportDisk selfImport = .ok drained.graph ∧
          drained.graph.root = selfImport ∧
            drained.graph.fileOf? selfImportDisk 0 =
              some (selfImportDisk.canonical ⟨"main.ts"⟩) ∧
              drained.graph.IsImportGraph (fun _ _ => selfImport.tree) selfImportDisk :=
  ⟨rfl, by decide +kernel, build_isImportGraph rfl (by decide +kernel)⟩

-- The import of the own file is a link from module 0 to itself, and no module is added.
example :
    (build (fun _ _ => selfImport.tree) selfImportDisk selfImport).toOption.map
      (fun graph => (graph.size, graph.links)) = some (1, [((0, "./main"), 0)]) := by
  decide +kernel

end PromiseDetection.ModuleGraph

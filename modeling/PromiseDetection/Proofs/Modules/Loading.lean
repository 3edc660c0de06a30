import Mathlib.Data.List.Basic
import PromiseDetection.Proofs.Disk.Spelling
import PromiseDetection.Proofs.Modules.Graph

/-!
What following specifiers does to a graph in the making.

Modules are visited in the order of their numbers, and a visit follows the specifiers of its module
one by one. After every step the table of the loaded files is the table of the modules of the graph,
the links tell where the specifiers lead, and a specifier without a link leads to no module of the
graph. One step either passes its specifier over, adds a link to a known module, or adds a module
and a link to it.
-/

namespace PromiseDetection

namespace SourceUnit

/-- The unit imports or exports, at its top level, from a relative specifier. -/
def Imports (unit : SourceUnit) (specifier : String) : Prop :=
  isRelative specifier = true ∧
    ∃ statement ∈ unit.tree.namedChildren unit.tree.root,
      (unit.tree.kind statement = .importStatement ∨ unit.tree.kind statement = .exportStatement) ∧
        ∃ source, unit.tree.childWith? statement .source = some source ∧
          unit.document.literalText source = specifier

theorem mem_foldl_distinct (items seen : List String) (item : String) :
    item ∈ items.foldl (fun seen next => if seen.contains next then seen else seen ++ [next]) seen ↔
      item ∈ seen ∨ item ∈ items := by
  induction items generalizing seen with
  | nil => simp
  | cons first rest inductionHypothesis =>
    rw [List.foldl_cons, inductionHypothesis]
    by_cases known : first ∈ seen
    · by_cases same : item = first <;> simp [known, same]
    · simp [known, or_assoc]

theorem mem_specifiers_iff {unit : SourceUnit} {specifier : String} :
    specifier ∈ unit.specifiers ↔ unit.Imports specifier := by
  simp only [specifiers, mem_foldl_distinct, List.not_mem_nil, false_or, List.mem_filter,
    List.mem_filterMap, Imports]
  rw [and_comm]
  refine and_congr_right fun _ => exists_congr fun statement => and_congr_right fun _ => ?_
  constructor
  · intro written
    split at written
    · next kind => exact ⟨Or.inl kind, by simpa using written⟩
    · next kind => exact ⟨Or.inr kind, by simpa using written⟩
    · simp at written
  · rintro ⟨kind | kind, source, found, text⟩ <;> simp [kind, found, text]

end SourceUnit

namespace ModuleGraph

/-- The canonical path of the file that a module comes from. Imported modules are read under it. -/
def fileOf? (graph : ModuleGraph) (disk : FileSystem) (module : Nat) : Option Path :=
  if module = 0 then graph.root.path?.map disk.canonical else (graph.unit module).path?

def leadsTo? (graph : ModuleGraph) (disk : FileSystem) (module : Nat) (specifier : String) :
    Option Path :=
  ((graph.unit module).path?.bind Path.parent?).bind fun directory =>
    Modules.resolve? disk directory specifier

def withLink (graph : ModuleGraph) (module : Nat) (specifier : String) (target : Nat) :
    ModuleGraph :=
  { graph with links := ((module, specifier), target) :: graph.links }

def withModule (graph : ModuleGraph) (unit : SourceUnit) : ModuleGraph :=
  { graph with imports := graph.imports.push unit }

section

variable (graph : ModuleGraph) (unit : SourceUnit)

@[simp] theorem size_withLink (module : Nat) (specifier : String) (target : Nat) :
    (graph.withLink module specifier target).size = graph.size := rfl

@[simp] theorem unit_withLink (module : Nat) (specifier : String) (target : Nat) :
    (graph.withLink module specifier target).unit = graph.unit := by
  funext position
  cases position <;> rfl

@[simp] theorem fileOf?_withLink (disk : FileSystem) (module : Nat) (specifier : String)
    (target : Nat) :
    (graph.withLink module specifier target).fileOf? disk = graph.fileOf? disk := by
  funext position
  simp only [fileOf?, unit_withLink]
  rfl

@[simp] theorem leadsTo?_withLink (disk : FileSystem) (module : Nat) (specifier : String)
    (target : Nat) :
    (graph.withLink module specifier target).leadsTo? disk = graph.leadsTo? disk := by
  funext position known
  simp only [leadsTo?, unit_withLink]

@[simp] theorem size_withModule : (graph.withModule unit).size = graph.size + 1 := by
  simp [withModule, size]

@[simp] theorem links_withModule : (graph.withModule unit).links = graph.links := rfl

variable {graph unit} {module : Nat}

theorem unit_withModule_of_lt (inside : module < graph.size) :
    (graph.withModule unit).unit module = graph.unit module := by
  cases module with
  | zero => rfl
  | succ position =>
    have before : position < graph.imports.size := Nat.lt_of_succ_lt_succ inside
    simp [withModule, ModuleGraph.unit, Array.getElem?_push_lt before, before]

theorem unit_withModule_size : (graph.withModule unit).unit graph.size = unit := by
  simp [withModule, ModuleGraph.unit, size]

theorem fileOf?_withModule_of_lt {disk : FileSystem} (inside : module < graph.size) :
    (graph.withModule unit).fileOf? disk module = graph.fileOf? disk module := by
  simp only [fileOf?, unit_withModule_of_lt inside]
  rfl

theorem leadsTo?_withModule_of_lt {disk : FileSystem} (inside : module < graph.size) :
    (graph.withModule unit).leadsTo? disk module = graph.leadsTo? disk module := by
  funext specifier
  simp only [leadsTo?, unit_withModule_of_lt inside]

theorem fileOf?_withModule_size {disk : FileSystem} :
    (graph.withModule unit).fileOf? disk graph.size = unit.path? := by
  have imported : graph.size ≠ 0 := Nat.succ_ne_zero _
  rw [fileOf?, if_neg imported, unit_withModule_size]

end

namespace Loading

variable {grammar : Grammar} {disk : FileSystem} {module : Nat} {directory : Path}
  {specifier : String} {loading : Loading}

inductive Follows (grammar : Grammar) (disk : FileSystem) (module : Nat) (directory : Path)
    (loading : Loading) (specifier : String) : Loading → Prop where
  | nowhere (unresolved : Modules.resolve? disk directory specifier = none) :
      Follows grammar disk module directory loading specifier loading
  | known {target file : Path} {id : Nat}
      (resolved : Modules.resolve? disk directory specifier = some target)
      (membership : (file, id) ∈ loading.loaded) (same : file.same target = true) :
      Follows grammar disk module directory loading specifier
        { loading with graph := loading.graph.withLink module specifier id }
  | passed {target : Path} (resolved : Modules.resolve? disk directory specifier = some target)
      (new : ∀ known ∈ loading.loaded, known.1.same target = false)
      (reason : moduleLimit ≤ loading.graph.size ∨ ∃ error, disk.readText target = .error error) :
      Follows grammar disk module directory loading specifier loading
  | read {target : Path} {text : String} {replaced : Bool}
      (resolved : Modules.resolve? disk directory specifier = some target)
      (new : ∀ known ∈ loading.loaded, known.1.same target = false)
      (room : loading.graph.size < moduleLimit) (readable : disk.readText target = .ok (text, replaced)) :
      Follows grammar disk module directory loading specifier
        { graph := (loading.graph.withModule (SourceUnit.parse grammar text (some target))).withLink
            module specifier loading.graph.size
          loaded := (target, loading.graph.size) :: loading.loaded }

theorem follows_follow (grammar : Grammar) (disk : FileSystem) (module : Nat) (directory : Path)
    (loading : Loading) (specifier : String) :
    Follows grammar disk module directory loading specifier
      (loading.follow grammar disk module directory specifier) := by
  unfold follow
  cases resolved : Modules.resolve? disk directory specifier with
  | none => exact .nowhere resolved
  | some target =>
    dsimp only
    cases found : loading.loaded.find? fun known => known.1.same target with
    | some known =>
      have same : known.1.same target = true := by simpa using List.find?_some found
      exact .known resolved (List.mem_of_find?_eq_some found) same
    | none =>
      have new : ∀ known ∈ loading.loaded, known.1.same target = false := by
        simpa using List.find?_eq_none.mp found
      dsimp only
      by_cases full : moduleLimit ≤ loading.graph.size
      · rw [if_pos full]
        exact .passed resolved new (Or.inl full)
      · rw [if_neg full]
        cases readable : disk.readText target with
        | error error => exact .passed resolved new (Or.inr ⟨error, readable⟩)
        | ok read => exact .read resolved new (Nat.lt_of_not_le full) readable

/-- The table of the loaded files is the table of the modules of the graph. -/
structure Filed (grammar : Grammar) (disk : FileSystem) (unit : SourceUnit) (loading : Loading) :
    Prop where
  root : loading.graph.root = unit
  size_le : loading.graph.size ≤ moduleLimit
  exists_file : ∀ module, module < loading.graph.size → ∃ file, (file, module) ∈ loading.loaded
  fileOf : ∀ {file module}, (file, module) ∈ loading.loaded →
    module < loading.graph.size ∧ loading.graph.fileOf? disk module = some file
  injective : ∀ {file other module id}, (file, module) ∈ loading.loaded →
    (other, id) ∈ loading.loaded → file.same other = true → module = id
  parsed : ∀ {file module}, (file, module) ∈ loading.loaded → module ≠ 0 →
    (∃ directory specifier, Modules.resolve? disk directory specifier = some file) ∧
      ∃ text replaced, disk.readText file = .ok (text, replaced) ∧
        loading.graph.unit module = SourceUnit.parse grammar text (some file)

/-- The links tell where specifiers lead, and they are made in the order of the modules: whoever
links to a module comes no earlier than somebody who links to any module before it. -/
structure Linked (disk : FileSystem) (current : Nat) (graph : ModuleGraph) : Prop where
  source_le : ∀ {module specifier target}, ((module, specifier), target) ∈ graph.links →
    module ≤ current
  sound : ∀ {module specifier target}, ((module, specifier), target) ∈ graph.links →
    module < graph.size ∧ target < graph.size ∧ (graph.unit module).Imports specifier ∧
      ∃ found file, graph.leadsTo? disk module specifier = some found ∧
        graph.fileOf? disk target = some file ∧ file.same found = true
  imported : ∀ target, 0 < target → target < graph.size →
    ∃ module specifier, module < target ∧ ((module, specifier), target) ∈ graph.links
  ordered : ∀ {module specifier target}, ((module, specifier), target) ∈ graph.links →
    ∀ earlier, 0 < earlier → earlier ≤ target →
      ∃ first known, first ≤ module ∧ ((first, known), earlier) ∈ graph.links

/-- A specifier that was followed is linked or leads to no module, and then for a reason: the file
cannot be read, or there was no room after the imports of the modules so far. -/
def Settled (disk : FileSystem) (loading : Loading) (module : Nat) (specifier : String)
    (found : Path) : Prop :=
  (∃ target, ((module, specifier), target) ∈ loading.graph.links) ∨
    ((∀ known ∈ loading.loaded, known.1.same found = false) ∧
      ((∃ error, disk.readText found = .error error) ∨
        (moduleLimit ≤ loading.graph.size ∧ ∀ target, 0 < target → target < loading.graph.size →
          ∃ first known, first ≤ module ∧ ((first, known), target) ∈ loading.graph.links)))

/-- The state of loading while a module is visited, when some specifiers have been followed. -/
structure Progress (grammar : Grammar) (disk : FileSystem) (unit : SourceUnit) (current : Nat)
    (followed : Nat → String → Prop) (loading : Loading) : Prop where
  past : ∀ {module specifier}, followed module specifier → module ≤ current
  filed : Filed grammar disk unit loading
  linked : Linked disk current loading.graph
  settled : ∀ {module specifier found}, followed module specifier →
    module < loading.graph.size → (loading.graph.unit module).Imports specifier →
      loading.graph.leadsTo? disk module specifier = some found →
        Settled disk loading module specifier found

variable {unit : SourceUnit} {current : Nat}

namespace Filed

theorem withLink {id : Nat} (filed : Filed grammar disk unit loading) :
    Filed grammar disk unit { loading with graph := loading.graph.withLink module specifier id } where
  root := filed.root
  size_le := filed.size_le
  exists_file := filed.exists_file
  fileOf := by
    intro file module membership
    simpa only [size_withLink, fileOf?_withLink] using filed.fileOf membership
  injective := filed.injective
  parsed := by
    intro file module membership imported
    simpa only [unit_withLink] using filed.parsed membership imported

theorem read {target : Path} {text : String} {replaced : Bool}
    (filed : Filed grammar disk unit loading)
    (resolved : Modules.resolve? disk directory specifier = some target)
    (new : ∀ known ∈ loading.loaded, known.1.same target = false)
    (room : loading.graph.size < moduleLimit)
    (readable : disk.readText target = .ok (text, replaced)) :
    Filed grammar disk unit
      { graph := loading.graph.withModule (SourceUnit.parse grammar text (some target))
        loaded := (target, loading.graph.size) :: loading.loaded } where
  root := filed.root
  size_le := by simpa using Nat.succ_le_of_lt room
  exists_file := by
    intro module inside
    rw [size_withModule, Nat.lt_succ_iff_lt_or_eq] at inside
    rcases inside with before | rfl
    · obtain ⟨file, membership⟩ := filed.exists_file module before
      exact ⟨file, List.mem_cons_of_mem _ membership⟩
    · exact ⟨target, List.mem_cons_self⟩
  fileOf := by
    intro file module membership
    rcases List.mem_cons.mp membership with own | before
    · cases own
      exact ⟨by simp, fileOf?_withModule_size⟩
    · obtain ⟨inside, found⟩ := filed.fileOf before
      exact ⟨by simp [Nat.lt_succ_of_lt inside], by rw [fileOf?_withModule_of_lt inside, found]⟩
  injective := by
    intro file other module id membership otherMembership same
    rcases List.mem_cons.mp membership with own | before <;>
      rcases List.mem_cons.mp otherMembership with otherOwn | otherBefore
    · cases own
      cases otherOwn
      rfl
    · cases own
      have apart := new _ otherBefore
      simp_all [Path.same, eq_comm]
    · cases otherOwn
      have apart := new _ before
      simp_all
    · exact filed.injective before otherBefore same
  parsed := by
    intro file module membership imported
    rcases List.mem_cons.mp membership with own | before
    · cases own
      exact ⟨⟨directory, specifier, resolved⟩, text, replaced, readable, unit_withModule_size⟩
    · obtain ⟨place, text, replaced, found, parsed⟩ := filed.parsed before imported
      refine ⟨place, text, replaced, found, ?_⟩
      rw [unit_withModule_of_lt (filed.fileOf before).1, parsed]

theorem same_eq_false {found : Path} {error : DiskError} {target : Path} {text : String}
    {replaced : Bool} {other : Path} {known : String}
    (resolved : Modules.resolve? disk directory specifier = some target)
    (readable : disk.readText target = .ok (text, replaced))
    (resolvedToo : Modules.resolve? disk other known = some found)
    (unreadable : disk.readText found = .error error) : target.same found = false := by
  by_contra same
  have agree := FileSystem.readText_of_resolve resolved resolvedToo (by simpa using same)
  simp [readable, unreadable] at agree

end Filed

namespace Linked

theorem withLink {graph later : ModuleGraph} {target : Nat} {found file : Path}
    (linked : Linked disk current graph) (source : current < graph.size)
    (grows : graph.size ≤ later.size) (links : later.links = graph.links)
    (unit : ∀ module, module < graph.size → later.unit module = graph.unit module)
    (fileOf : ∀ module, module < graph.size →
      later.fileOf? disk module = graph.fileOf? disk module)
    (inside : target < later.size) (next : ∀ module, module < later.size →
      module < graph.size ∨ module = target)
    (imports : (graph.unit current).Imports specifier)
    (leads : graph.leadsTo? disk current specifier = some found)
    (filed : later.fileOf? disk target = some file) (same : file.same found = true) :
    Linked disk current (later.withLink current specifier target) := by
  have leadsTo {module : Nat} (before : module < graph.size) :
      later.leadsTo? disk module = graph.leadsTo? disk module := by
    funext known
    simp only [leadsTo?, unit module before]
  have keeps {link : (Nat × String) × Nat} (membership : link ∈ graph.links) :
      link ∈ (later.withLink current specifier target).links :=
    List.mem_cons_of_mem _ (links ▸ membership)
  have cases_of {module other : Nat} {known : String}
      (membership : ((module, known), other) ∈ (later.withLink current specifier target).links) :
      (module = current ∧ known = specifier ∧ other = target) ∨
        ((module, known), other) ∈ graph.links := by
    rcases List.mem_cons.mp membership with own | before
    · cases own
      exact Or.inl ⟨rfl, rfl, rfl⟩
    · exact Or.inr (links ▸ before)
  constructor
  case source_le =>
    intro module known other membership
    rcases cases_of membership with ⟨rfl, _⟩ | before
    · exact Nat.le_refl module
    · exact linked.source_le before
  case sound =>
    intro module known other membership
    simp only [size_withLink, unit_withLink, leadsTo?_withLink, fileOf?_withLink]
    rcases cases_of membership with ⟨rfl, rfl, rfl⟩ | before
    · rw [unit module source, leadsTo source]
      exact ⟨Nat.lt_of_lt_of_le source grows, inside, imports, found, file, leads, filed, same⟩
    · obtain ⟨sourceInside, targetInside, rest⟩ := linked.sound before
      rw [unit module sourceInside, leadsTo sourceInside, fileOf other targetInside]
      exact ⟨Nat.lt_of_lt_of_le sourceInside grows, Nat.lt_of_lt_of_le targetInside grows, rest⟩
  case imported =>
    intro other positive before
    by_cases old : other < graph.size
    · obtain ⟨module, known, earlier, membership⟩ := linked.imported other positive old
      exact ⟨module, known, earlier, keeps membership⟩
    · obtain rfl : other = target := (next other before).resolve_left old
      exact ⟨current, specifier, by omega, List.mem_cons_self⟩
  case ordered =>
    intro module known other membership earlier positive before
    rcases cases_of membership with ⟨rfl, rfl, rfl⟩ | old
    · by_cases among : earlier < graph.size
      · obtain ⟨first, name, _, linkedFirst⟩ := linked.imported earlier positive among
        exact ⟨first, name, linked.source_le linkedFirst, keeps linkedFirst⟩
      · have here := (next earlier (Nat.lt_of_le_of_lt before inside)).resolve_left among
        exact ⟨module, known, Nat.le_refl module, here ▸ List.mem_cons_self⟩
    · obtain ⟨first, name, le, linkedFirst⟩ := linked.ordered old earlier positive before
      exact ⟨first, name, le, keeps linkedFirst⟩

theorem advance {graph : ModuleGraph} (linked : Linked disk current graph) :
    Linked disk (current + 1) graph :=
  { linked with source_le := fun membership => Nat.le_succ_of_le (linked.source_le membership) }

end Linked

namespace Settled

variable {found : Path}

theorem withLink {source id : Nat} {known : String}
    (settled : Settled disk loading module specifier found) :
    Settled disk { loading with graph := loading.graph.withLink source known id } module specifier
      found := by
  rcases settled with ⟨target, membership⟩ | ⟨new, unreadable | ⟨full, early⟩⟩
  · exact Or.inl ⟨target, List.mem_cons_of_mem _ membership⟩
  · exact Or.inr ⟨new, Or.inl unreadable⟩
  · refine Or.inr ⟨new, Or.inr ⟨full, fun target positive before => ?_⟩⟩
    obtain ⟨first, name, le, linkedFirst⟩ := early target positive before
    exact ⟨first, name, le, List.mem_cons_of_mem _ linkedFirst⟩

/-- What is read later is another file: the one at hand could not be read, or there was no room. -/
theorem read {target : Path} {text : String} {replaced : Bool} {unit : SourceUnit}
    {known : String} (settled : Settled disk loading module specifier found)
    (leads : loading.graph.leadsTo? disk module specifier = some found)
    (resolved : Modules.resolve? disk directory known = some target)
    (room : loading.graph.size < moduleLimit)
    (readable : disk.readText target = .ok (text, replaced)) :
    Settled disk { graph := loading.graph.withModule unit
                   loaded := (target, loading.graph.size) :: loading.loaded }
      module specifier found := by
  rcases settled with linked | ⟨new, ⟨error, unreadable⟩ | ⟨full, _⟩⟩
  · exact Or.inl linked
  · refine Or.inr ⟨fun entry membership => ?_, Or.inl ⟨error, unreadable⟩⟩
    rcases List.mem_cons.mp membership with rfl | before
    · obtain ⟨place, _, resolvedToo⟩ := Option.bind_eq_some_iff.mp leads
      exact Filed.same_eq_false resolved readable resolvedToo unreadable
    · exact new entry before
  · omega

end Settled

namespace Progress

variable {followed : Nat → String → Prop}

theorem follow (progress : Progress grammar disk unit current followed loading)
    (inside : current < loading.graph.size)
    (place : (loading.graph.unit current).path?.bind Path.parent? = some directory)
    (imports : (loading.graph.unit current).Imports specifier) :
    Progress grammar disk unit current
      (fun module known => followed module known ∨ (module = current ∧ known = specifier))
      (loading.follow grammar disk current directory specifier) := by
  obtain ⟨past, filed, linked, settled⟩ := progress
  have pastToo {module : Nat} {known : String}
      (done : followed module known ∨ (module = current ∧ known = specifier)) :
      module ≤ current := by
    rcases done with before | ⟨rfl, _⟩
    · exact past before
    · exact Nat.le_refl module
  have leads {found : Path} (resolved : Modules.resolve? disk directory specifier = some found) :
      loading.graph.leadsTo? disk current specifier = some found := by
    rw [leadsTo?, place, Option.bind_some, resolved]
  -- A step that changes nothing only has to settle its own specifier.
  have unchanged (own : ∀ found, Modules.resolve? disk directory specifier = some found →
      Settled disk loading current specifier found) :
      Progress grammar disk unit current
        (fun module known => followed module known ∨ (module = current ∧ known = specifier))
        loading := by
    refine ⟨pastToo, filed, linked, ?_⟩
    rintro module known found (before | ⟨rfl, rfl⟩) within written leadsHere
    · exact settled before within written leadsHere
    · apply own
      rwa [leadsTo?, place, Option.bind_some] at leadsHere
  have step := follows_follow grammar disk current directory loading specifier
  generalize loading.follow grammar disk current directory specifier = after at step ⊢
  cases step with
  | nowhere unresolved =>
    refine unchanged fun found resolved => ?_
    simp [unresolved] at resolved
  | passed resolved new reason =>
    refine unchanged fun found again => ?_
    obtain rfl := Option.some.inj (resolved.symm.trans again)
    refine Or.inr ⟨new, ?_⟩
    rcases reason with full | unreadable
    · refine Or.inr ⟨full, fun target positive before => ?_⟩
      obtain ⟨first, name, _, linkedFirst⟩ := linked.imported target positive before
      exact ⟨first, name, linked.source_le linkedFirst, linkedFirst⟩
    · exact Or.inl unreadable
  | @known target file id resolved membership same =>
    obtain ⟨before, found⟩ := filed.fileOf membership
    refine ⟨pastToo, filed.withLink, ?_, ?_⟩
    · exact linked.withLink inside (Nat.le_refl _) rfl (fun _ _ => rfl) (fun _ _ => rfl) before
        (fun _ => Or.inl) imports (leads resolved) found same
    · rintro module known found (earlier | ⟨rfl, rfl⟩) within written leadsHere
      · simp only [size_withLink, unit_withLink, leadsTo?_withLink] at within written leadsHere
        exact (settled earlier within written leadsHere).withLink
      · exact Or.inl ⟨id, List.mem_cons_self⟩
  | @read target text replaced resolved new room readable =>
    refine ⟨pastToo, (filed.read resolved new room readable).withLink, ?_, ?_⟩
    · exact linked.withLink inside (by simp) rfl (fun _ => unit_withModule_of_lt)
        (fun _ => fileOf?_withModule_of_lt) (by simp)
        (fun module => by simpa using Nat.lt_succ_iff_lt_or_eq.mp) imports (leads resolved)
        fileOf?_withModule_size (by simp [Path.same])
    · rintro module known found (earlier | ⟨rfl, rfl⟩) within written leadsHere
      · simp only [size_withLink, unit_withLink, leadsTo?_withLink] at within written leadsHere
        -- Nothing of the new module has been followed yet.
        have before : module < loading.graph.size := Nat.lt_of_le_of_lt (past earlier) inside
        rw [unit_withModule_of_lt before] at written
        rw [leadsTo?_withModule_of_lt before] at leadsHere
        exact ((settled earlier before written leadsHere).read leadsHere resolved room
          readable).withLink
      · exact Or.inl ⟨loading.graph.size, List.mem_cons_self⟩

theorem weaken {fewer : Nat → String → Prop}
    (progress : Progress grammar disk unit current followed loading)
    (within : ∀ module specifier, fewer module specifier → followed module specifier) :
    Progress grammar disk unit current fewer loading where
  past done := progress.past (within _ _ done)
  filed := progress.filed
  linked := progress.linked
  settled done := progress.settled (within _ _ done)

end Progress

theorem follow_keeps (grammar : Grammar) (disk : FileSystem) (module : Nat) (directory : Path)
    (loading : Loading) (specifier : String) :
    loading.graph.size ≤ (loading.follow grammar disk module directory specifier).graph.size ∧
      ∀ known, known < loading.graph.size →
        (loading.follow grammar disk module directory specifier).graph.unit known =
          loading.graph.unit known := by
  have step := follows_follow grammar disk module directory loading specifier
  generalize loading.follow grammar disk module directory specifier = after at step ⊢
  cases step with
  | nowhere | passed => exact ⟨Nat.le_refl _, fun _ _ => rfl⟩
  | known => exact ⟨Nat.le_refl _, fun _ _ => by rw [unit_withLink]⟩
  | read =>
    exact ⟨by simp, fun _ before => by rw [unit_withLink, unit_withModule_of_lt before]⟩

theorem foldl_keeps (grammar : Grammar) (disk : FileSystem) (module : Nat) (directory : Path)
    (loading : Loading) (specifiers : List String) :
    let later := specifiers.foldl (Loading.follow grammar disk module directory) loading
    loading.graph.size ≤ later.graph.size ∧
      ∀ known, known < loading.graph.size →
        later.graph.unit known = loading.graph.unit known := by
  induction specifiers generalizing loading with
  | nil => exact ⟨Nat.le_refl _, fun _ _ => rfl⟩
  | cons specifier rest inductionHypothesis =>
    obtain ⟨grows, keeps⟩ := follow_keeps grammar disk module directory loading specifier
    obtain ⟨growsOn, keepsOn⟩ :=
      inductionHypothesis (loading.follow grammar disk module directory specifier)
    refine ⟨Nat.le_trans grows growsOn, fun known before => ?_⟩
    rw [List.foldl_cons, keepsOn known (Nat.lt_of_lt_of_le before grows), keeps known before]

namespace Progress

variable {followed : Nat → String → Prop}

theorem foldl {specifiers : List String}
    (progress : Progress grammar disk unit current followed loading)
    (inside : current < loading.graph.size)
    (place : (loading.graph.unit current).path?.bind Path.parent? = some directory)
    (imports : ∀ specifier ∈ specifiers, (loading.graph.unit current).Imports specifier) :
    Progress grammar disk unit current
      (fun module known => followed module known ∨ (module = current ∧ known ∈ specifiers))
      (specifiers.foldl (Loading.follow grammar disk current directory) loading) := by
  induction specifiers generalizing followed loading with
  | nil => exact progress.weaken fun module known done => by simpa using done
  | cons specifier rest inductionHypothesis =>
    obtain ⟨grows, keeps⟩ := follow_keeps grammar disk current directory loading specifier
    have step := progress.follow inside place (imports specifier List.mem_cons_self)
    rw [List.foldl_cons]
    refine (inductionHypothesis step (Nat.lt_of_lt_of_le inside grows) ?_ ?_).weaken ?_
    · rw [keeps current inside, place]
    · intro known later
      rw [keeps current inside]
      exact imports known (List.mem_cons_of_mem specifier later)
    · rintro module known (before | ⟨here, listed⟩)
      · exact Or.inl (Or.inl before)
      · rcases List.mem_cons.mp listed with own | later
        · exact Or.inl (Or.inr ⟨here, own⟩)
        · exact Or.inr ⟨here, later⟩

theorem visit (progress : Progress grammar disk unit current (fun module _ => module < current) loading) :
    Progress grammar disk unit (current + 1) (fun module _ => module < current + 1)
      (loading.visit grammar disk current) := by
  have finish {later : Loading}
      (progress : Progress grammar disk unit current
        (fun module known => module < current ∨
          (module = current ∧ (later.graph.unit current).Imports known)) later) :
      Progress grammar disk unit (current + 1) (fun module _ => module < current + 1) later := by
    refine ⟨Nat.le_of_lt, progress.filed, progress.linked.advance, ?_⟩
    intro module specifier found done within written leads
    apply progress.settled _ within written leads
    rcases Nat.lt_succ_iff_lt_or_eq.mp done with before | rfl
    · exact Or.inl before
    · exact Or.inr ⟨rfl, written⟩
  unfold Loading.visit
  by_cases inside : current < loading.graph.size
  · rw [if_pos inside]
    dsimp only
    cases place : (loading.graph.unit current).path?.bind Path.parent? with
    | none =>
      apply finish
      refine ⟨fun done => by omega, progress.filed, progress.linked, ?_⟩
      rintro module specifier found (before | ⟨rfl, _⟩) within written leads
      · exact progress.settled before within written leads
      · simp [leadsTo?, place] at leads
    | some directory =>
      dsimp only
      apply finish
      have listed : ∀ specifier ∈ (loading.graph.unit current).specifiers,
          (loading.graph.unit current).Imports specifier :=
        fun specifier => SourceUnit.mem_specifiers_iff.mp
      refine (progress.foldl inside place listed).weaken ?_
      rintro module specifier (before | ⟨here, written⟩)
      · exact Or.inl before
      · obtain ⟨_, keeps⟩ := foldl_keeps grammar disk current directory loading
          (loading.graph.unit current).specifiers
        rw [keeps current inside] at written
        exact Or.inr ⟨here, SourceUnit.mem_specifiers_iff.mpr written⟩
  · rw [if_neg inside]
    apply finish
    refine ⟨fun done => by omega, progress.filed, progress.linked, ?_⟩
    rintro module specifier found (before | ⟨rfl, _⟩) within written leads
    · exact progress.settled before within written leads
    · exact absurd within inside

/-- **Visits.** After the first visits everything that these modules import is settled. -/
theorem run (progress : Progress grammar disk unit 0 (fun module _ => module < 0) loading)
    (visits : Nat) :
    Progress grammar disk unit visits (fun module _ => module < visits)
      ((List.range visits).foldl (Loading.visit grammar disk) loading) := by
  induction visits with
  | zero => exact progress
  | succ visits inductionHypothesis =>
    rw [List.range_succ, List.foldl_append]
    exact inductionHypothesis.visit

end Progress

end Loading

end ModuleGraph

end PromiseDetection

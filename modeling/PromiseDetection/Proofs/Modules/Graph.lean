import Mathlib.Data.List.Basic
import PromiseDetection.Modules.Graph

/-!
The module graph that is built of a unit: when there is one, and what is in it for certain.
-/

namespace PromiseDetection.ModuleGraph

variable {grammar : Grammar} {disk : FileSystem} {unit : SourceUnit} {graph : ModuleGraph}

theorem build_error_iff :
    (∃ error, build grammar disk unit = .error error) ↔
      unit.path?.bind Dialect.ofPath? = none := by
  unfold build
  cases unit.path? with
  | none => simp
  | some path => cases dialect : Dialect.ofPath? path <;> simp [dialect]

theorem exists_build (grammar : Grammar) (disk : FileSystem)
    (script : (unit.path?.bind Dialect.ofPath?).isSome = true) :
    ∃ graph, build grammar disk unit = .ok graph := by
  cases built : build grammar disk unit with
  | ok graph => exact ⟨graph, rfl⟩
  | error error =>
    rw [build_error_iff.mp ⟨error, built⟩] at script
    simp at script

theorem Loading.root_follow (module : Nat) (directory : Path) (loading : Loading)
    (specifier : String) :
    (loading.follow grammar disk module directory specifier).graph.root = loading.graph.root := by
  unfold Loading.follow
  cases Modules.resolve? disk directory specifier with
  | none => rfl
  | some target =>
    dsimp only
    cases loading.loaded.find? fun known => known.1.same target with
    | some known => rfl
    | none =>
      dsimp only
      by_cases full : moduleLimit ≤ loading.graph.size
      · rw [if_pos full]
      · rw [if_neg full]
        cases disk.readText target <;> rfl

theorem Loading.root_foldl {α : Type} {step : Loading → α → Loading}
    (keeps : ∀ loading item, (step loading item).graph.root = loading.graph.root)
    (items : List α) (loading : Loading) :
    (items.foldl step loading).graph.root = loading.graph.root := by
  induction items generalizing loading with
  | nil => rfl
  | cons item rest inductionHypothesis => rw [List.foldl_cons, inductionHypothesis, keeps]

theorem Loading.root_visit (loading : Loading) (module : Nat) :
    (loading.visit grammar disk module).graph.root = loading.graph.root := by
  unfold Loading.visit
  split
  · dsimp only
    split
    · rfl
    · next directory _ => exact root_foldl (root_follow module directory) _ loading
  · rfl

theorem root_of_build (built : build grammar disk unit = .ok graph) : graph.root = unit := by
  unfold build at built
  split at built
  · simp at built
  · split at built
    · simp at built
    · rw [Except.ok.injEq] at built
      rw [← built, Loading.root_foldl Loading.root_visit]

theorem build_of_no_specifiers {path : Path} (named : unit.path? = some path)
    (script : (Dialect.ofPath? path).isSome = true) (alone : unit.specifiers = []) :
    build grammar disk unit = .ok { root := unit, imports := #[], links := [] } := by
  -- The one module has nothing to follow, and there is no other one to visit.
  have visited (module : Nat) (loaded : List (Path × Nat)) :
      Loading.visit grammar disk
        { graph := { root := unit, imports := #[], links := [] }, loaded } module =
          { graph := { root := unit, imports := #[], links := [] }, loaded } := by
    unfold Loading.visit
    by_cases known : module < 1
    · obtain rfl := Nat.lt_one_iff.mp known
      simp only [ModuleGraph.unit, alone]
      split
      · split <;> rfl
      · rfl
    · exact if_neg known
  unfold build
  simp only [named, Option.isNone_iff_eq_none]
  rw [if_neg (Option.isSome_iff_ne_none.mp script), List.foldl_fixed' fun module => visited module _]

end PromiseDetection.ModuleGraph

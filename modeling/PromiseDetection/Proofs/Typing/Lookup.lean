import Mathlib.Data.List.Basic
import PromiseDetection.Typing.Named

/-!
Look-ups that have levels enough.

A look-up that runs out of levels may be passed over by the one that needs it, so its result alone
does not tell whether there were levels enough. Here every step of a look-up is checked. One that
has levels enough finds the same with any number of levels more.
-/

namespace PromiseDetection.ModuleGraph

mutual

def declaresWithin (graph : ModuleGraph) : Nat → Declaration → String → Bool
  | 0, _, _ => false
  | levels + 1, declaration, name =>
    match declaration with
    | .interface place => graph.listsWithin levels place
    | .imported (some module) _ (.named exported) =>
      match graph.exportedType module exported with
      | .ok known => graph.declaresWithin levels known exported
      | .error _ => true
    | .imported (some module) _ .defaultExport =>
      match graph.exportedType module "default" with
      | .ok known => graph.declaresWithin levels known name
      | .error _ => true
    | _ => true

def listsWithin (graph : ModuleGraph) : Nat → Site → Bool
  | 0, _ => false
  | levels + 1, place =>
    let tree := graph.tree place.module
    match tree.childOfKind? place.node .extendsTypeClause with
    | none => true
    | some clause =>
      (tree.namedChildren clause).all fun parent =>
        graph.looksWithin levels (graph.writtenType (place.withNode parent))

/-- Are there levels enough to look through a type? -/
def looksWithin (graph : ModuleGraph) : Nat → Ty → Bool
  | 0, .named _ _ => false
  | levels + 1, .named name place =>
    match graph.namedDeclaration name place with
    | .error _ => true
    | .ok (declaration, known) =>
      graph.declaresWithin levels declaration known &&
        match graph.declaredType levels declaration known with
        | .ok next => graph.looksWithin levels next
        | .error _ => true
  | _, _ => true

end

def callsWithin (graph : ModuleGraph) : Nat → Ty → Bool
  | 0, _ => false
  | levels + 1, type =>
    match type with
    | .union alternatives => alternatives.all (graph.callsWithin levels)
    | .named _ _ =>
      graph.looksWithin levels type &&
        match graph.lookThrough levels type with
        | .ok expanded => graph.callsWithin levels expanded
        | .error _ => true
    | _ => true

variable {graph : ModuleGraph}

theorem lookThrough_of_not_named {levels : Nat} {type : Ty}
    (other : ∀ name place, type ≠ .named name place) : graph.lookThrough levels type = .ok type := by
  cases type with
  | named name place => exact absurd rfl (other name place)
  | _ => cases levels <;> rfl

section

variable {levels more : Nat}
  (declares : ∀ declaration name, graph.declaresWithin levels declaration name = true →
    graph.declaredType more declaration name = graph.declaredType levels declaration name)
  (lists : ∀ place, graph.listsWithin levels place = true →
    graph.membersOfInterface more place = graph.membersOfInterface levels place)
  (looks : ∀ type, graph.looksWithin levels type = true →
    graph.lookThrough more type = graph.lookThrough levels type)

include declares lists in
theorem declaredType_succ {declaration : Declaration} {name : String}
    (within : graph.declaresWithin (levels + 1) declaration name = true) :
    graph.declaredType (more + 1) declaration name =
      graph.declaredType (levels + 1) declaration name := by
  cases declaration with
  | interface place =>
    simp only [declaresWithin] at within
    simp only [declaredType, lists place within]
  | imported module specifier binding =>
    cases module with
    | none => rfl
    | some module =>
      cases binding with
      | wholeModule => rfl
      | named exported =>
        simp only [declaresWithin] at within
        simp only [declaredType]
        cases found : graph.exportedType module exported with
        | error => rfl
        | ok known =>
          simp only [found] at within
          exact declares known exported within
      | defaultExport =>
        simp only [declaresWithin] at within
        simp only [declaredType]
        cases found : graph.exportedType module "default" with
        | error => rfl
        | ok known =>
          simp only [found] at within
          exact declares known name within
  | _ => rfl

include looks in
theorem membersOfInterface_succ {place : Site}
    (within : graph.listsWithin (levels + 1) place = true) :
    graph.membersOfInterface (more + 1) place = graph.membersOfInterface (levels + 1) place := by
  simp only [listsWithin] at within
  simp only [membersOfInterface]
  change (match (graph.tree place.module).childOfKind? place.node .extendsTypeClause with
    | none => _
    | some clause => _) =
      match (graph.tree place.module).childOfKind? place.node .extendsTypeClause with
      | none => _
      | some clause => _
  cases found : (graph.tree place.module).childOfKind? place.node .extendsTypeClause with
  | none => rfl
  | some clause =>
    simp only [found, List.all_eq_true] at within
    refine congrArg Except.ok (List.foldl_ext _ _ _ ?_)
    intro members parent membership
    rw [looks _ (within parent membership)]

include declares looks in
theorem lookThrough_succ {type : Ty} (within : graph.looksWithin (levels + 1) type = true) :
    graph.lookThrough (more + 1) type = graph.lookThrough (levels + 1) type := by
  cases type with
  | named name place =>
    simp only [looksWithin] at within
    simp only [lookThrough]
    cases found : graph.namedDeclaration name place with
    | error => rfl
    | ok reached =>
      simp only [found, Bool.and_eq_true] at within
      show graph.declaredType more reached.1 reached.2 >>= _ =
        graph.declaredType levels reached.1 reached.2 >>= _
      rw [declares _ _ within.1]
      cases next : graph.declaredType levels reached.1 reached.2 with
      | error => rfl
      | ok type =>
        simp only [next] at within
        exact looks type within.2
  | _ => rfl

end

/-- Levels that are enough are as good as any number of levels more. -/
theorem lookup_of_within (levels extra : Nat) :
    (∀ declaration name, graph.declaresWithin levels declaration name = true →
      graph.declaredType (levels + extra) declaration name =
        graph.declaredType levels declaration name) ∧
    (∀ place, graph.listsWithin levels place = true →
      graph.membersOfInterface (levels + extra) place = graph.membersOfInterface levels place) ∧
    ∀ type, graph.looksWithin levels type = true →
      graph.lookThrough (levels + extra) type = graph.lookThrough levels type := by
  induction levels with
  | zero =>
    refine ⟨fun _ _ absurdity => ?_, fun _ absurdity => ?_, fun type within => ?_⟩
    · simp [declaresWithin] at absurdity
    · simp [listsWithin] at absurdity
    · have other (name : String) (place : Site) : type ≠ .named name place := by
        rintro rfl
        simp [looksWithin] at within
      rw [lookThrough_of_not_named other, lookThrough_of_not_named other]
  | succ levels inductionHypothesis =>
    obtain ⟨declares, lists, looks⟩ := inductionHypothesis
    rw [Nat.add_right_comm]
    exact ⟨fun _ _ => declaredType_succ declares lists, fun _ => membersOfInterface_succ looks,
      fun _ => lookThrough_succ declares looks⟩

variable {levels more : Nat} {type : Ty}

theorem lookThrough_of_within (within : graph.looksWithin levels type = true)
    (enough : levels ≤ more) : graph.lookThrough more type = graph.lookThrough levels type := by
  obtain ⟨extra, rfl⟩ := Nat.exists_eq_add_of_le enough
  exact (graph.lookup_of_within levels extra).2.2 type within

theorem canBeCalled_of_within (within : graph.callsWithin levels type = true)
    (enough : levels ≤ more) : graph.canBeCalled more type = graph.canBeCalled levels type := by
  induction levels generalizing more type with
  | zero => simp [callsWithin] at within
  | succ levels inductionHypothesis =>
    obtain ⟨more, rfl⟩ := Nat.exists_eq_add_of_le' (Nat.le_trans (Nat.succ_pos levels) enough)
    have fewer : levels ≤ more := Nat.le_of_succ_le_succ enough
    cases type with
    | union alternatives =>
      simp only [callsWithin, List.all_eq_true] at within
      simp only [canBeCalled]
      rw [Bool.eq_iff_iff, List.any_eq_true, List.any_eq_true]
      refine exists_congr fun next => and_congr_right fun membership => ?_
      rw [inductionHypothesis (within next membership) fewer]
    | named name place =>
      simp only [callsWithin, Bool.and_eq_true] at within
      simp only [canBeCalled, lookThrough_of_within within.1 fewer]
      cases found : graph.lookThrough levels (.named name place) with
      | error => rfl
      | ok expanded =>
        simp only [found] at within
        exact inductionHypothesis within.2 fewer
    | builtin known => cases known <;> rfl
    | _ => rfl

end PromiseDetection.ModuleGraph

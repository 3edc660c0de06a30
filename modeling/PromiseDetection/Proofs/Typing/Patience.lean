import Mathlib.Algebra.Order.BigOperators.Group.List
import Mathlib.Algebra.Order.Ring.Nat
import PromiseDetection.Proofs.Modules.Closure
import PromiseDetection.Proofs.Typing.Lookup
import PromiseDetection.Proofs.Typing.Termination

/-!
How much patience inference needs.

A name stands for something that is no name any more, and if it stands for a union, then this union
is written in a module that the name can see. The alternatives of a written union are no unions. So
a way that awaiting takes passes a name and a written union in turn, and if it comes to an end, it
passes no union twice. Hence there is a patience for each graph that is enough for all types that
can be awaited, and inference on the graph has no outcome only where no patience gives one.
-/

namespace PromiseDetection

theorem exists_of_bind_eq_ok {ε α β : Type} {first : Except ε α} {next : α → Except ε β}
    {result : β} (came : first >>= next = .ok result) :
    ∃ value, first = .ok value ∧ next value = .ok result := by
  cases first with
  | error error => cases came
  | ok value => exact ⟨value, rfl, came⟩

theorem exists_of_map_eq_ok {ε α β : Type} {first : Except ε α} {change : α → β} {result : β}
    (came : first.map change = .ok result) : ∃ value, first = .ok value ∧ change value = result := by
  cases first with
  | error error => cases came
  | ok value => exact ⟨value, rfl, Except.ok.inj came⟩

namespace Ty

/-- Awaiting such a type looks into nothing else. -/
def IsOutright : Ty → Prop
  | .union _ | .named _ _ => False
  | _ => True

/-- The types that a union may be made of: names that are written in some modules, and types that
nobody looks into. -/
def IsPart (modules : List Nat) : Ty → Prop
  | .named _ place => place.module ∈ modules
  | type => type.IsOutright

def IsFlat (modules : List Nat) (type : Ty) : Prop :=
  ∀ part ∈ type.alternatives, part.IsPart modules

theorem IsPart.isFlat {modules : List Nat} {type : Ty} (part : type.IsPart modules) :
    type.IsFlat modules := by
  cases type with
  | union => exact part.elim
  | _ => simpa only [IsFlat, alternatives, List.forall_mem_singleton] using part

theorem isFlat_ofAlternatives {modules : List Nat} {types : List Ty}
    (parts : ∀ part ∈ types, part.IsPart modules) : (ofAlternatives types).IsFlat modules := by
  match types with
  | [] => exact IsPart.isFlat trivial
  | [single] => exact (parts single List.mem_cons_self).isFlat
  | _ :: _ :: _ => exact parts

theorem unionDepth_le_greatest {type : Ty} {types : List Ty} (membership : type ∈ types) :
    type.unionDepth ≤ greatestUnionDepth types := by
  induction types with
  | nil => cases membership
  | cons first rest inductionHypothesis =>
    rw [greatestUnionDepth]
    rcases List.mem_cons.mp membership with rfl | later
    · exact Nat.le_max_left _ _
    · exact le_max_of_le_right (inductionHypothesis later)

end Ty

theorem Document.isFlat_writtenType {modules : List Nat} {module : Nat} (inside : module ∈ modules)
    (document : Document) (position : Nat) :
    (document.writtenType module position).IsFlat modules := by
  fun_induction document.writtenType module position with
  | case7 =>
    cases Primitive.ofKeyword? _ <;> exact Ty.IsPart.isFlat trivial
  | case16 _ _ _ inductionHypothesis | case17 _ _ _ inductionHypothesis =>
    refine Ty.isFlat_ofAlternatives fun part among => ?_
    obtain ⟨⟨child, within⟩, _, alternative⟩ := List.mem_flatMap.mp among
    exact inductionHypothesis child within part alternative
  | _ => first | assumption | exact Ty.IsPart.isFlat trivial | exact Ty.IsPart.isFlat inside

namespace ModuleGraph

section

variable {graph : ModuleGraph} {modules : List Nat} {levels : Nat} {name : String} {place : Site}
  {declaration : Declaration} {type : Ty}

theorem leadsInto_namedDeclaration (closed : graph.IsClosed modules)
    (inside : place.module ∈ modules) {known : String}
    (found : graph.namedDeclaration name place = .ok (declaration, known)) :
    declaration.LeadsInto modules := by
  unfold namedDeclaration at found
  split at found
  · obtain ⟨whole, named, rest⟩ := exists_of_bind_eq_ok found
    split at rest
    · have into := leadsInto_valueNamed closed inside named
      obtain ⟨declared, exported, same⟩ := exists_of_bind_eq_ok rest
      cases same
      exact leadsInto_exportedType closed into exported
    · cases rest
  · obtain ⟨declared, named, same⟩ := exists_of_bind_eq_ok found
    cases same
    exact leadsInto_typeNamed closed inside named

theorem written_of_declaredType (closed : graph.IsClosed modules)
    (into : declaration.LeadsInto modules)
    (found : graph.declaredType levels declaration name = .ok type) :
    (∃ site : Site, site.module ∈ modules ∧ type = graph.writtenType site) ∨ type.IsOutright := by
  induction levels generalizing declaration name with
  | zero => cases found
  | succ levels inductionHypothesis =>
    cases declaration with
    | «alias» place =>
      simp only [declaredType] at found
      split at found <;> cases found
      exact Or.inl ⟨_, by exact into, rfl⟩
    | interface place =>
      obtain ⟨members, _, rfl⟩ := exists_of_map_eq_ok found
      exact Or.inr trivial
    | imported module? specifier binding =>
      cases module? with
      | none => cases found
      | some module =>
        cases binding with
        | wholeModule =>
          cases found
          exact Or.inr trivial
        | named exported =>
          obtain ⟨known, searched, further⟩ := exists_of_bind_eq_ok found
          exact inductionHypothesis (leadsInto_exportedType closed into searched) further
        | defaultExport =>
          obtain ⟨known, searched, further⟩ := exists_of_bind_eq_ok found
          exact inductionHypothesis (leadsInto_exportedType closed into searched) further
    | _ => cases found <;> exact Or.inr trivial

def writtenTypes (graph : ModuleGraph) (modules : List Nat) : List Ty :=
  modules.flatMap fun module =>
    (List.range (graph.tree module).size).map fun node => graph.writtenType { node, module }

theorem isFlat_of_mem_writtenTypes (written : type ∈ graph.writtenTypes modules) :
    type.IsFlat modules := by
  obtain ⟨module, inside, among⟩ := List.mem_flatMap.mp written
  obtain ⟨node, _, rfl⟩ := List.mem_map.mp among
  exact Document.isFlat_writtenType inside (graph.document module) node

theorem writtenType_mem_writtenTypes {site : Site} (inside : site.module ∈ modules)
    {alternatives : List Ty} (union : graph.writtenType site = .union alternatives) :
    graph.writtenType site ∈ graph.writtenTypes modules := by
  have within : site.node < (graph.tree site.module).size := by
    by_contra outside
    have kind : (graph.tree site.module).kind site.node = .other "" := by
      rw [Tree.kind, Array.getElem?_eq_none (Nat.not_lt.mp outside)]
      rfl
    rw [writtenType, Document.writtenType, show (graph.document site.module).tree.kind site.node =
      .other "" from kind] at union
    cases union
  exact List.mem_flatMap.mpr ⟨site.module, inside,
    List.mem_map.mpr ⟨site.node, List.mem_range.mpr within, rfl⟩⟩

/-- Looking a name up gives a union that is written in one of the modules, or nothing to look into
any further. -/
theorem written_of_lookThrough (closed : graph.IsClosed modules) (inside : place.module ∈ modules)
    (found : graph.lookThrough levels (.named name place) = .ok type) :
    type.IsOutright ∨ ∃ alternatives, type = .union alternatives ∧
      type ∈ graph.writtenTypes modules := by
  induction levels generalizing name place with
  | zero => cases found
  | succ levels inductionHypothesis =>
    rw [lookThrough] at found
    obtain ⟨⟨declaration, known⟩, declares, stands⟩ := exists_of_bind_eq_ok found
    obtain ⟨next, declared, further⟩ := exists_of_bind_eq_ok stands
    have written := written_of_declaredType closed
      (leadsInto_namedDeclaration closed inside declares) declared
    cases shape : next with
    | named other site =>
      subst shape
      obtain ⟨origin, within, same⟩ := written.resolve_right not_false
      have flat : (graph.writtenType origin).IsFlat modules :=
        Document.isFlat_writtenType within (graph.document origin.module) origin.node
      rw [← same] at flat
      exact inductionHypothesis (flat _ List.mem_cons_self) further
    | union alternatives =>
      subst shape
      obtain ⟨origin, within, same⟩ := written.resolve_right not_false
      have listed := writtenType_mem_writtenTypes within same.symm
      rw [lookThrough_of_not_named (by simp), ← same] at *
      cases further
      exact Or.inr ⟨alternatives, rfl, listed⟩
    | _ =>
      subst shape
      rw [lookThrough_of_not_named (by simp)] at further
      cases further
      exact Or.inl trivial

end

section

variable {graph : ModuleGraph} {levels : Nat} {type : Ty}

theorem not_unfolds_self (ends : Acc (fun next type => graph.Unfolds levels type next) type) :
    ¬ Relation.TransGen (graph.Unfolds levels) type type := by
  induction ends with
  | intro type _ inductionHypothesis =>
    intro around
    obtain ⟨next, step, back⟩ := Relation.TransGen.head'_iff.mp around
    exact inductionHypothesis next step (Relation.TransGen.tail' back step)

theorem endsWithin_of_isOutright {steps : Nat} (outright : type.IsOutright) :
    graph.endsWithin levels (steps + 1) type = true := by
  cases type with
  | union | named => exact outright.elim
  | _ => rfl

/-- Counts down the written unions that are still ahead: behind a name in a union there is one of
them or nothing to look into, and no way comes back to the union. -/
theorem endsWithin_of_ahead {modules : List Nat} (closed : graph.IsClosed modules) {count : Nat}
    {ahead : List Ty} (few : ahead.length < count) {alternatives : List Ty}
    (flat : (Ty.union alternatives).IsFlat modules)
    (ends : Acc (fun next type => graph.Unfolds levels type next) (.union alternatives))
    (complete : ∀ below ∈ graph.writtenTypes modules,
      Relation.TransGen (graph.Unfolds levels) (.union alternatives) below → below ∈ ahead) :
    graph.endsWithin levels (2 * count + 1) (.union alternatives) = true := by
  induction count generalizing ahead alternatives with
  | zero => exact absurd few (Nat.not_lt_zero _)
  | succ count inductionHypothesis =>
    rw [Nat.mul_succ, endsWithin_succ_iff]
    intro part step
    cases step with
    | alternative membership =>
      have leads := flat part membership
      cases part with
      | union => exact leads.elim
      | named name place =>
        rw [endsWithin_succ_iff]
        intro next step
        have below : Relation.TransGen (graph.Unfolds levels) (.union alternatives) next :=
          .tail (.single (.alternative membership)) step
        cases step with
        | name found =>
          rcases written_of_lookThrough closed leads found with outright | ⟨further, rfl, written⟩
          · exact endsWithin_of_isOutright outright
          · have onwards := (ends.inv (.alternative membership)).inv (.name found)
            have met := complete _ written below
            have fewer : (ahead.erase (.union further)).length < count := by
              have := List.length_pos_of_mem met
              rw [List.length_erase_of_mem met]
              omega
            refine inductionHypothesis fewer (isFlat_of_mem_writtenTypes written) onwards ?_
            intro later listed reached
            refine (List.mem_erase_of_ne ?_).mpr (complete later listed (below.trans reached))
            rintro rfl
            exact not_unfolds_self onwards reached
      | _ => rfl

end

end ModuleGraph

namespace Inference

variable {graph : ModuleGraph}

theorem nodeCount_eq_sum :
    nodeCount graph = ((List.range graph.size).map fun module => (graph.tree module).size).sum := by
  rw [nodeCount, List.sum_eq_foldl, List.foldl_map]

theorem size_le_nodeCount (module : Nat) : (graph.tree module).size ≤ nodeCount graph := by
  have counted {position : Nat} (inside : position < graph.size) :
      (graph.tree position).size ≤ nodeCount graph := by
    rw [nodeCount_eq_sum]
    exact List.le_sum_of_mem (List.mem_map.mpr ⟨position, List.mem_range.mpr inside, rfl⟩)
  by_cases inside : module < graph.size
  · exact counted inside
  · -- A number that no module has stands for the root.
    have root : graph.tree module = graph.tree 0 := by
      cases module with
      | zero => rfl
      | succ position =>
        have beyond : graph.imports.size ≤ position := by
          simpa [ModuleGraph.size] using inside
        simp [ModuleGraph.tree, ModuleGraph.document, ModuleGraph.unit,
          Array.getElem?_eq_none beyond]
    rw [root]
    exact counted (Nat.succ_pos _)

theorem length_writtenTypes_le (module : Nat) :
    (graph.writtenTypes (module :: List.range graph.size)).length ≤ 2 * nodeCount graph := by
  have length : (graph.writtenTypes (module :: List.range graph.size)).length =
      (graph.tree module).size + nodeCount graph := by
    simp [ModuleGraph.writtenTypes, List.length_flatMap, nodeCount_eq_sum]
  have whole : (graph.tree module).size ≤ nodeCount graph := size_le_nodeCount module
  omega

theorem endsWithin_patience (linked : graph.LinksWithin) {levels : Nat} {type : Ty}
    (ends : Acc (fun next type => graph.Unfolds levels type next) type) :
    graph.endsWithin levels ((onGraph graph).patience + type.unionDepth) type = true := by
  induction ends with
  | intro type ends inductionHypothesis =>
    cases type with
    | union alternatives =>
      rw [Ty.unionDepth, ← Nat.add_assoc, ModuleGraph.endsWithin_succ_iff]
      intro part step
      refine ModuleGraph.endsWithin_mono ?_ (inductionHypothesis part step)
      cases step with
      | alternative membership =>
        exact Nat.add_le_add_left (Ty.unionDepth_le_greatest membership) _
    | named name place =>
      have closed : graph.IsClosed (place.module :: List.range graph.size) :=
        fun _ _ _ _ leads => List.mem_cons_of_mem _ (List.mem_range.mpr (linked leads))
      refine ModuleGraph.endsWithin_succ_iff.mpr fun next step => ?_
      have onwards := ends next step
      cases step with
      | name found =>
        rcases ModuleGraph.written_of_lookThrough closed List.mem_cons_self found with
          outright | ⟨_, rfl, written⟩
        · exact ModuleGraph.endsWithin_of_isOutright outright
        · have few : (graph.writtenTypes (place.module :: List.range graph.size)).length ≤
              2 * nodeCount graph := length_writtenTypes_le place.module
          refine ModuleGraph.endsWithin_mono (by omega)
            (ModuleGraph.endsWithin_of_ahead closed (Nat.lt_succ_self _)
              (ModuleGraph.isFlat_of_mem_writtenTypes written) onwards fun _ listed _ => listed)
    | _ => rfl

end Inference

theorem awaited_eq_of_endsWithin {graph : ModuleGraph} {levels patience more : Nat} {type : Ty}
    (thenable : Ty → Inquiry Bool) (ends : graph.endsWithin levels patience type = true)
    (other : graph.endsWithin levels more type = true) :
    awaited patience graph levels thenable type = awaited more graph levels thenable type := by
  induction patience generalizing more type with
  | zero => simp [ModuleGraph.endsWithin] at ends
  | succ patience inductionHypothesis =>
    cases more with
    | zero => simp [ModuleGraph.endsWithin] at other
    | succ more =>
      rw [ModuleGraph.endsWithin_succ_iff] at ends other
      cases type with
      | union alternatives =>
        have same : alternatives.mapM (awaited patience graph levels thenable) =
            alternatives.mapM (awaited more graph levels thenable) :=
          mapM_congr fun part membership =>
            inductionHypothesis (ends part (.alternative membership))
              (other part (.alternative membership))
        simp only [awaited, same]
      | named name place =>
        simp only [awaited]
        cases found : graph.lookThrough levels (.named name place) with
        | error => rfl
        | ok next => exact inductionHypothesis (ends next (.name found)) (other next (.name found))
      | _ => rfl

theorem Judgements.withLevels_congr {graph : ModuleGraph} {manner other : Manner}
    (read : manner.read = other.read) (await : manner.await graph = other.await graph)
    (levels : Nat) : withLevels manner graph levels = withLevels other graph levels := by
  induction levels with
  | zero => simp only [withLevels, exhausted, read, await]
  | succ levels inductionHypothesis =>
    simp only [withLevels, step, inductionHypothesis, read, await]

namespace Inference

variable {graph : ModuleGraph}

theorem awaitedBeyond_onGraph (linked : graph.LinksWithin) :
    awaitedBeyond (onGraph graph).patience graph = awaitedUnlessCircular graph := by
  funext levels thenable type session
  unfold awaitedUnlessCircular awaitedBeyond
  split
  · next ends =>
    have enough := endsWithin_patience linked (ModuleGraph.exists_endsWithin_iff_acc.mp ends)
    rw [awaited_eq_of_endsWithin thenable enough ends.choose_spec]
  · next circular =>
    exact Option.eq_none_iff_forall_ne_some.mpr fun _ came =>
      circular ⟨_, endsWithin_of_awaited came⟩

theorem answer_of_awaited {inference : Inference} (candidate : Candidate)
    (same : awaitedBeyond inference.patience inference.graph =
      awaitedUnlessCircular inference.graph) :
    inference.answer candidate = inference.answerUnlessCircular candidate := by
  have judgements : Judgements.withLevels (patientManner (some inference.patience))
      inference.graph inference.levels =
      Judgements.withLevels (patientManner none) inference.graph inference.levels :=
    @Judgements.withLevels_congr inference.graph (patientManner (some inference.patience))
      (patientManner none) rfl same inference.levels
  rw [answer_eq, judgements, answerUnlessCircular]

/-- **The patience is enough.** Inference on a graph that was built gives an answer about a
candidate exactly if it gives one with every patience that is large enough. -/
theorem ends_onGraph_iff {grammar : Grammar} {disk : FileSystem} {unit : SourceUnit}
    (built : ModuleGraph.build grammar disk unit = .ok graph) (candidate : Candidate)
    (session : Session) :
    (onGraph graph).Ends candidate session ↔
      ∃ outcome, ((onGraph graph).answer candidate).run session = some outcome := by
  rw [ends_iff, answer_of_awaited candidate
    (awaitedBeyond_onGraph (ModuleGraph.linksWithin_of_build built))]

end Inference

end PromiseDetection

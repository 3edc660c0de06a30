import PromiseDetection.Proofs.Typing.Rules

/-!
Looking into the types that are awaited.

Awaiting looks into the alternatives of unions and behind the names of aliases at one level. It ends
if every chain of such steps does, and then it keeps every law. A law that also holds of the inquiry
that never ends is kept in any case.
-/

namespace PromiseDetection

namespace ModuleGraph

/-- One step of looking into a type that is awaited: to an alternative of a union, or to what a name
stands for. -/
inductive Unfolds (graph : ModuleGraph) (levels : Nat) : Ty → Ty → Prop where
  | alternative {alternatives : List Ty} {next : Ty} (membership : next ∈ alternatives) :
      Unfolds graph levels (.union alternatives) next
  | name {name : String} {place : Site} {next : Ty}
      (found : graph.lookThrough levels (.named name place) = .ok next) :
      Unfolds graph levels (.named name place) next

/-- Does looking into a type come to an end within some steps? -/
def endsWithin (graph : ModuleGraph) (levels : Nat) : Nat → Ty → Bool
  | 0, _ => false
  | steps + 1, .union alternatives => alternatives.all (graph.endsWithin levels steps)
  | steps + 1, .named name place =>
    match graph.lookThrough levels (.named name place) with
    | .ok next => graph.endsWithin levels steps next
    | .error _ => true
  | _ + 1, _ => true

variable {graph : ModuleGraph} {levels : Nat}

theorem endsWithin_succ_iff {steps : Nat} {type : Ty} :
    graph.endsWithin levels (steps + 1) type = true ↔
      ∀ next, graph.Unfolds levels type next → graph.endsWithin levels steps next = true := by
  constructor
  · intro ends next step
    cases step with
    | alternative membership =>
      exact List.all_eq_true.mp (by simpa only [endsWithin] using ends) next membership
    | name found => simpa only [endsWithin, found] using ends
  · intro below
    cases type with
    | union alternatives =>
      simp only [endsWithin, List.all_eq_true]
      exact fun next membership => below next (.alternative membership)
    | named name place =>
      simp only [endsWithin]
      split
      · next found => exact below _ (.name found)
      · rfl
    | _ => rfl

theorem endsWithin_mono {steps more : Nat} (enough : steps ≤ more) {type : Ty}
    (ends : graph.endsWithin levels steps type = true) :
    graph.endsWithin levels more type = true := by
  induction more generalizing steps type with
  | zero =>
    rw [Nat.le_zero.mp enough] at ends
    exact ends
  | succ more inductionHypothesis =>
    cases steps with
    | zero => simp [endsWithin] at ends
    | succ steps =>
      rw [endsWithin_succ_iff] at ends ⊢
      exact fun next step => inductionHypothesis (Nat.le_of_succ_le_succ enough) (ends next step)

theorem exists_common_steps {types : List Ty}
    (each : ∀ type ∈ types, ∃ steps, graph.endsWithin levels steps type = true) :
    ∃ steps, ∀ type ∈ types, graph.endsWithin levels steps type = true := by
  induction types with
  | nil => exact ⟨0, by simp⟩
  | cons first rest inductionHypothesis =>
    obtain ⟨own, ends⟩ := each first List.mem_cons_self
    obtain ⟨others, endOthers⟩ := inductionHypothesis fun type membership =>
      each type (List.mem_cons_of_mem first membership)
    refine ⟨max own others, fun type membership => ?_⟩
    rcases List.mem_cons.mp membership with rfl | later
    · exact endsWithin_mono (Nat.le_max_left own others) ends
    · exact endsWithin_mono (Nat.le_max_right own others) (endOthers type later)

/-- The types that are not circular are those below which every chain of steps is finite. -/
theorem exists_endsWithin_iff_acc {type : Ty} :
    (∃ steps, graph.endsWithin levels steps type = true) ↔
      Acc (fun next type => graph.Unfolds levels type next) type := by
  constructor
  · rintro ⟨steps, ends⟩
    induction steps generalizing type with
    | zero => simp [endsWithin] at ends
    | succ steps inductionHypothesis =>
      exact Acc.intro type fun next step =>
        inductionHypothesis (endsWithin_succ_iff.mp ends next step)
  · intro accessible
    induction accessible with
    | intro type _ inductionHypothesis =>
      have uniform : ∃ steps, ∀ next, graph.Unfolds levels type next →
          graph.endsWithin levels steps next = true := by
        cases type with
        | union alternatives =>
          obtain ⟨steps, ends⟩ := exists_common_steps fun next membership =>
            inductionHypothesis next (.alternative membership)
          refine ⟨steps, fun next step => ?_⟩
          cases step with
          | alternative membership => exact ends next membership
        | named name place =>
          cases found : graph.lookThrough levels (.named name place) with
          | error =>
            refine ⟨0, fun next step => ?_⟩
            cases step with
            | name other => simp [found] at other
          | ok target =>
            obtain ⟨steps, ends⟩ := inductionHypothesis target (.name found)
            refine ⟨steps, fun next step => ?_⟩
            cases step with
            | name other =>
              cases found.symm.trans other
              exact ends
        | _ => exact ⟨0, fun next step => nomatch step⟩
      obtain ⟨steps, ends⟩ := uniform
      exact ⟨steps + 1, endsWithin_succ_iff.mpr ends⟩

end ModuleGraph

variable {graph : ModuleGraph} {levels : Nat}

theorem mapM_congr {α β : Type} {ask other : α → Inquiry β} {items : List α}
    (same : ∀ item ∈ items, ask item = other item) : items.mapM ask = items.mapM other := by
  induction items with
  | nil => rfl
  | cons first rest inductionHypothesis =>
    have later := inductionHypothesis fun item membership =>
      same item (List.mem_cons_of_mem first membership)
    rw [List.mapM_cons, List.mapM_cons, same first List.mem_cons_self, later]

theorem exists_of_mapM {α β : Type} {ask : α → Inquiry β} {items : List α} {session : Session}
    {outcome : List β × Session} (came : items.mapM ask session = some outcome) :
    ∀ item ∈ items, ∃ before after, ask item before = some after := by
  induction items generalizing session outcome with
  | nil => simp
  | cons first rest inductionHypothesis =>
    rw [List.mapM_cons] at came
    obtain ⟨reached, begun, continued⟩ := Option.bind_eq_some_iff.mp came
    obtain ⟨finished, later, _⟩ := Option.bind_eq_some_iff.mp continued
    intro item membership
    rcases List.mem_cons.mp membership with rfl | among
    · exact ⟨session, reached, begun⟩
    · exact inductionHypothesis later item among

/-- Awaiting has an outcome only if looking into the type ends within the patience there is. -/
theorem endsWithin_of_awaited {patience : Nat} {thenable : Ty → Inquiry Bool} {type : Ty}
    {session : Session} {outcome : Ty × Session}
    (came : awaited patience graph levels thenable type session = some outcome) :
    graph.endsWithin levels patience type = true := by
  induction patience generalizing type session outcome with
  | zero => simp [awaited, Inquiry.endless] at came
  | succ patience inductionHypothesis =>
    rw [ModuleGraph.endsWithin_succ_iff]
    intro next step
    cases step with
    | alternative membership =>
      obtain ⟨_, found, _⟩ := Option.bind_eq_some_iff.mp came
      obtain ⟨_, _, below⟩ := exists_of_mapM found next membership
      exact inductionHypothesis below
    | name found =>
      simp only [awaited, found] at came
      exact inductionHypothesis came

/-- Awaiting keeps a law if the law puts up with inquiries that never end, or if there is patience
enough. -/
theorem Law.holds_awaited {ι : Type} {law : Law ι} {patience : Nat} {type : Ty}
    {thenable : ι → Ty → Inquiry Bool}
    (ends : law.holds (fun _ => (.endless : Inquiry Ty)) ∨ graph.endsWithin levels patience type = true)
    (held : ∀ type, law.holds fun index => thenable index type) :
    law.holds fun index => awaited patience graph levels (thenable index) type := by
  induction patience generalizing type with
  | zero =>
    rcases ends with endless | ends
    · exact endless
    · simp [ModuleGraph.endsWithin] at ends
  | succ patience inductionHypothesis =>
    have below {next : Ty} (step : graph.Unfolds levels type next) :
        law.holds fun index => awaited patience graph levels (thenable index) next :=
      inductionHypothesis (ends.imp_right fun ends => ModuleGraph.endsWithin_succ_iff.mp ends next step)
    cases type with
    | union alternatives =>
      exact law.ofBind (Law.holds_mapM fun next membership => below (.alternative membership))
        fun types => law.ofPure (Ty.ofAlternatives types)
    | named name place =>
      simp only [awaited]
      split
      · next found => exact below (.name found)
      · exact law.ofPure Ty.unknown
    | promise inner => exact law.ofPure inner
    | _ =>
      apply law.ofBind (held _)
      intro positive
      cases positive <;> exact law.ofPure _

theorem Manner.lawful_of_read {ι : Type} {law : Law ι} {patience : Nat}
    {reading : ι → (Site → Infer Ty) → Site → Infer Ty}
    (endless : law.holds fun _ => (.endless : Inquiry Ty))
    (allowed : ∀ reads : ι → Site → Infer Ty,
      (∀ function, law.allows fun index => reads index function) →
        ∀ function, law.allows fun index => reading index (reads index) function) :
    Manner.Lawful law graph fun index => { read := reading index, await := awaitedBeyond patience } where
  read := allowed
  await := fun _ _ held _ => Law.holds_awaited (Or.inl endless) held

end PromiseDetection

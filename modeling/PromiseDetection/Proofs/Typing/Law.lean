import PromiseDetection.Typing.Session

/-!
Laws of inquiries.

A law speaks about a family of inquiries that were put together in the same way from different
parts: one run with a memory and one without, or the same run for every amount of patience. A law
that results and sequencing keep is kept by everything that is built from them.
-/

namespace PromiseDetection

/-- A property of families of inquiries that holds of plain results and that sequencing keeps. -/
structure Law (ι : Type) where
  holds : {α : Type} → (ι → Inquiry α) → Prop
  ofPure : ∀ {α : Type} (value : α), holds fun _ => (pure value : Inquiry α)
  ofBind : ∀ {α β : Type} {first : ι → Inquiry α} {next : ι → α → Inquiry β},
    holds first → (∀ value, holds fun index => next index value) →
      holds fun index => first index >>= next index

namespace Law

variable {ι α β : Type} (law : Law ι)

def allows (family : ι → Infer α) : Prop := law.holds fun index => (family index).run

theorem allows_pure (value : α) : law.allows fun _ => (pure value : Infer α) :=
  law.ofPure (Except.ok value)

theorem allows_throw (error : InferenceError) : law.allows fun _ => (throw error : Infer α) :=
  law.ofPure (Except.error error)

theorem allows_ofExcept (result : Except InferenceError α) :
    law.allows fun _ => Infer.ofExcept result :=
  law.ofPure result

variable {law}

theorem allows_bind {first : ι → Infer α} {next : ι → α → Infer β} (begun : law.allows first)
    (continued : ∀ value, law.allows fun index => next index value) :
    law.allows fun index => first index >>= next index := by
  apply law.ofBind begun
  intro result
  cases result with
  | ok value => exact continued value
  | error error => exact law.ofPure (Except.error error)

theorem allows_lift {inquiry : ι → Inquiry α} (held : law.holds inquiry) :
    law.allows fun index => (liftM (inquiry index) : Infer α) :=
  law.ofBind held fun value => law.ofPure (Except.ok value)

theorem holds_congr {family other : ι → Inquiry α} (same : ∀ index, family index = other index)
    (held : law.holds family) : law.holds other := by
  rwa [← funext same]

theorem holds_attempt {family : ι → Infer α} (allowed : law.allows family) :
    law.holds fun index => (family index).attempt :=
  allowed

theorem holds_orUnknown {family : ι → Infer Ty} (allowed : law.allows family) :
    law.holds fun index => (family index).orUnknown := by
  apply law.ofBind (holds_attempt allowed)
  intro result
  cases result with
  | ok type => exact law.ofPure type
  | error => exact law.ofPure Ty.unknown

theorem holds_successes {ask : ι → α → Infer Ty}
    (allowed : ∀ item, law.allows fun index => ask index item) (items : List α) :
    law.holds fun index => Infer.successes (ask index) items := by
  induction items with
  | nil => exact law.ofPure []
  | cons first rest inductionHypothesis =>
    apply law.ofBind (holds_attempt (allowed first))
    intro result
    cases result with
    | ok type => exact law.ofBind inductionHypothesis fun types => law.ofPure (type :: types)
    | error => exact inductionHypothesis

theorem holds_anyOf {test : ι → α → Inquiry Bool}
    (held : ∀ item, law.holds fun index => test index item) (items : List α) :
    law.holds fun index => Inquiry.anyOf (test index) items := by
  induction items with
  | nil => exact law.ofPure false
  | cons first rest inductionHypothesis =>
    apply law.ofBind (held first)
    intro hit
    cases hit with
    | true => exact law.ofPure true
    | false => exact inductionHypothesis

theorem holds_mapM {ask : ι → α → Inquiry β} {items : List α}
    (held : ∀ item ∈ items, law.holds fun index => ask index item) :
    law.holds fun index => items.mapM (ask index) := by
  induction items with
  | nil => exact law.ofPure []
  | cons first rest inductionHypothesis =>
    have later := inductionHypothesis fun item membership =>
      held item (List.mem_cons_of_mem first membership)
    simp only [List.mapM_cons]
    exact law.ofBind (held first List.mem_cons_self) fun value =>
      law.ofBind later fun values => law.ofPure (value :: values)

theorem allows_mapM {ask : ι → α → Infer β} {items : List α}
    (allowed : ∀ item ∈ items, law.allows fun index => ask index item) :
    law.allows fun index => items.mapM (ask index) := by
  induction items with
  | nil => exact law.allows_pure []
  | cons first rest inductionHypothesis =>
    have later := inductionHypothesis fun item membership =>
      allowed item (List.mem_cons_of_mem first membership)
    simp only [List.mapM_cons]
    exact allows_bind (allowed first List.mem_cons_self) fun value =>
      allows_bind later fun values => law.allows_pure (value :: values)

/-- Remembering what is read keeps a law that every single inquiry with outcomes obeys. -/
theorem allows_remembered
    (single : ∀ {γ : Type} (inquiry : Inquiry γ),
      (∀ session, ∃ outcome, inquiry session = some outcome) → law.holds fun _ => inquiry)
    {read : ι → Site → Infer Ty} {function : Site}
    (allowed : law.allows fun index => read index function) :
    law.allows fun index => Infer.remembered (read index) function := by
  refine law.ofBind (single get fun session => ⟨_, rfl⟩) fun before => ?_
  split
  · exact law.ofPure _
  · exact law.ofBind (single _ fun _ => ⟨_, rfl⟩) fun _ => law.ofPure _
  · exact law.ofBind (single _ fun _ => ⟨_, rfl⟩) fun _ => law.ofBind (holds_attempt allowed)
      fun _ => law.ofBind (single _ fun _ => ⟨_, rfl⟩) fun _ => law.ofPure _

end Law

end PromiseDetection

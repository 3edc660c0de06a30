import PromiseDetection.Proofs.Registry.Completeness

/-!
Every registered entry is founded.

An entry is registered when a definition is judged positive, and by then nothing but the entries
before it is registered. So the order of registration ranks the entries, and each of them has a
definition that is positive by way of lower ranks alone. Definitions whose only grounds are one
another are never registered, whatever cycles they form: the first of their entries would have to
be positive without any ground.
-/

namespace PromiseDetection

namespace Registry

/-- The registry as it was when it had so many entries. All instances were bound before. -/
def upTo (registry : Registry) (rank : Nat) : Registry :=
  { registry with entries := registry.entries.take rank }

theorem extends_upTo (registry : Registry) (rank : Nat) :
    registry.Extends (registry.upTo rank) := by
  refine ⟨rfl, fun entry known => ?_⟩
  simp only [contains, List.contains_iff_mem] at known ⊢
  exact List.mem_of_mem_take known

theorem contains_upTo_iff {registry : Registry} {rank : Nat} {entry : Entry} :
    (registry.upTo rank).contains entry = true ↔
      ∃ lower < rank, registry.entries[lower]? = some entry := by
  simp only [contains, upTo, List.contains_iff_mem, List.mem_iff_getElem?, List.getElem?_take]
  refine exists_congr fun lower => ?_
  by_cases below : lower < rank <;> simp [below]

@[simp] theorem upTo_length (registry : Registry) :
    registry.upTo registry.entries.length = registry := by
  simp [upTo]

theorem upTo_register {registry : Registry} {entry : Entry} {rank : Nat}
    (old : rank ≤ registry.entries.length) :
    (registry.register entry).upTo rank = registry.upTo rank := by
  unfold register
  split
  · rfl
  · simp [upTo, List.take_append_of_le_length old]

end Registry

namespace Document

variable {document : Document} {definitions : List Definition}

def recorded (document : Document) : List Definition :=
  document.definitionsOf document.tree.walkOrder

/-- Every entry is there once and has a definition that is positive with the entries before it. -/
structure Founded (document : Document) (definitions : List Definition) (registry : Registry) :
    Prop where
  distinct : registry.entries.Nodup
  grounded : ∀ rank entry, registry.entries[rank]? = some entry →
    ∃ definition ∈ definitions, definition.target = entry ∧
      definition.isPositive document (registry.upTo rank) = true

theorem Founded.grows {registry grown : Registry}
    (founded : document.Founded definitions registry)
    (step : document.Grows definitions registry grown) :
    document.Founded definitions grown := by
  obtain ⟨definition, recorded, positive, new, rfl⟩ := step.exists_definition
  have entries : (registry.register definition.target).entries =
      registry.entries ++ [definition.target] := by
    simp [Registry.register, new]
  constructor
  · exact Registry.nodup_entries_register founded.distinct definition.target
  -- The new entry comes last, so what is registered before it is the whole old registry.
  · intro rank entry found
    rcases Nat.lt_trichotomy rank registry.entries.length with old | last | beyond
    · rw [Registry.upTo_register (Nat.le_of_lt old)]
      rw [entries, List.getElem?_append_left old] at found
      exact founded.grounded rank entry found
    · rw [Registry.upTo_register (Nat.le_of_eq last)]
      rw [entries, last, List.getElem?_concat_length, Option.some.injEq] at found
      refine ⟨definition, recorded, found, ?_⟩
      rwa [last, Registry.upTo_length]
    · have outside : (registry.entries ++ [definition.target]).length ≤ rank := by
        rw [List.length_append]
        exact beyond
      rw [entries, List.getElem?_eq_none outside] at found
      cases found

theorem Founded.reaches {start finish : Registry}
    (founded : document.Founded definitions start)
    (reached : document.Reaches definitions start finish) :
    document.Founded definitions finish := by
  induction reached with
  | refl => exact founded
  | tail _ step inductionHypothesis => exact inductionHypothesis.grows step

theorem Founded.exists_definition {registry : Registry}
    (founded : document.Founded definitions registry) {entry : Entry}
    (known : registry.contains entry = true) :
    ∃ definition ∈ definitions, definition.target = entry := by
  simp only [Registry.contains, List.contains_iff_mem] at known
  obtain ⟨rank, placed⟩ := List.mem_iff_getElem?.mp known
  obtain ⟨definition, recorded, target, _⟩ := founded.grounded rank entry placed
  exact ⟨definition, recorded, target⟩

theorem founded_of_no_entries {registry : Registry} (unregistered : registry.entries = []) :
    document.Founded definitions registry :=
  ⟨by simp [unregistered], fun rank entry found => by simp [unregistered] at found⟩

theorem entries_instancesOf (document : Document) (visited : List Nat) :
    (document.instancesOf visited).entries = [] := by
  have kept (bindings : List (String × String)) (registry : Registry) :
      (bindings.foldl (fun registry binding => registry.bind binding.1 binding.2)
        registry).entries = registry.entries := by
    induction bindings generalizing registry with
    | nil => rfl
    | cons binding rest inductionHypothesis =>
      rw [List.foldl_cons, inductionHypothesis]
      rfl
  exact kept _ .empty

inductive CallsBuiltin (document : Document) (call : Nat) : Prop where
  | fetch {callee : Nat} (called : document.tree.childWith? call .callee = some callee)
      (named : document.tree.kind callee = .identifier) (word : document.textOf callee = "fetch")
  | static {callee receiver : Nat} (called : document.tree.childWith? call .callee = some callee)
      (access : document.tree.kind callee = .memberExpression)
      (object : document.tree.childWith? callee .object = some receiver)
      (named : document.tree.kind receiver = .identifier)
      (word : document.textOf receiver = "Promise")

inductive ReturnsBuiltin (document : Document) (returned : Nat) : Prop where
  | awaited (kind : document.tree.kind (document.tree.unwrap returned) = .awaitExpression)
  | constructed {constructed : Nat}
      (kind : document.tree.kind (document.tree.unwrap returned) = .newExpression)
      (found : document.tree.childWith? (document.tree.unwrap returned) .constructed =
        some constructed)
      (named : document.tree.kind constructed = .identifier)
      (word : document.textOf constructed = "Promise")
  | call (kind : document.tree.kind (document.tree.unwrap returned) = .callExpression)
      (builtin : document.CallsBuiltin (document.tree.unwrap returned))

end Document

/-- A definition has a ground that no registered entry has a part in: a function that is `async`, is
declared to return a promise, or returns an awaited value, a new promise, or the result of `fetch`
or of a member of `Promise`. -/
inductive Definition.HasOwnGround (document : Document) : Definition → Prop where
  | async {target : Entry} {function : Nat} (marked : document.tree.isAsync function = true) :
      HasOwnGround document { target, ground := .function function }
  | declared {target : Entry} {function : Nat}
      (typed : document.declaresPromise function = true) :
      HasOwnGround document { target, ground := .function function }
  | returned {target : Entry} {function returned : Nat}
      (membership : returned ∈ document.tree.returnedValues function)
      (builtin : document.ReturnsBuiltin returned) :
      HasOwnGround document { target, ground := .function function }

namespace Document

variable {document : Document} {registry : Registry}

theorem not_contains_of_no_entries (unregistered : registry.entries = []) (entry : Entry) :
    registry.contains entry = false := by
  simp [Registry.contains, unregistered]

theorem callsBuiltin_of_no_entries (unregistered : registry.entries = []) {call : Nat}
    (positive : document.callVerdict registry call = true) : document.CallsBuiltin call := by
  have absent := not_contains_of_no_entries unregistered
  cases CallGives.of_callVerdict positive with
  | name called named known =>
    simp only [absent, Bool.false_eq_true, or_false] at known
    exact .fetch called named known
  | member called access object member named known =>
    simp only [Registry.any_classOfReceiver?_iff, absent, Bool.false_eq_true, and_false,
      exists_false, or_false] at known
    exact .static called access object named known
  | own called access object member this around named known => simp [absent] at known

theorem returnsBuiltin_of_no_entries (unregistered : registry.entries = []) {returned : Nat}
    (positive : document.returnedVerdict registry returned = true) :
    document.ReturnsBuiltin returned := by
  simp only [returnedVerdict] at positive
  split at positive
  · next kind => exact .awaited kind
  · next kind =>
    split at positive
    · next constructed found =>
      simp only [Bool.and_eq_true, decide_eq_true_eq, beq_iff_eq] at positive
      exact .constructed kind found positive.1 positive.2
    · simp at positive
  · next kind => exact .call kind (callsBuiltin_of_no_entries unregistered positive)
  · simp at positive

end Document

namespace Definition

variable {document : Document} {registry : Registry} {definition : Definition}

theorem hasOwnGround_of_no_entries (unregistered : registry.entries = [])
    (positive : definition.isPositive document registry = true) :
    definition.HasOwnGround document := by
  obtain ⟨target, ground⟩ := definition
  cases ground with
  | «alias» name =>
    have absent := Document.not_contains_of_no_entries unregistered (.function name)
    simp [isPositive, Registry.hasFunction, absent] at positive
  | function function =>
    simp only [isPositive, Document.functionVerdict, Bool.or_eq_true,
      List.any_eq_true] at positive
    rcases positive with (marked | typed) | ⟨returned, membership, found⟩
    · exact .async marked
    · exact .declared typed
    · exact .returned membership (Document.returnsBuiltin_of_no_entries unregistered found)

theorem exists_dependency (positive : definition.isPositive document registry = true)
    (groundless : ¬ definition.HasOwnGround document) :
    ∃ entry ∈ definition.dependencies document registry, registry.contains entry = true := by
  rcases definition.restsOn_isPositive document registry positive with
    always | ⟨entry, waited, known, _⟩
  · exact absurd
      (hasOwnGround_of_no_entries rfl (always (registry.upTo 0) (registry.extends_upTo 0)))
      groundless
  · exact ⟨entry, waited, known⟩

end Definition

namespace Document

variable {document : Document} {definitions : List Definition} {registry : Registry}

/-- The definitions of a set have no ground of their own, and the set has every definition of their
targets and of the entries that they look up. -/
structure Circular (document : Document) (registry : Registry) (definitions : List Definition)
    (circle : Definition → Prop) : Prop where
  groundless : ∀ definition, circle definition → ¬ definition.HasOwnGround document
  targets : ∀ definition, circle definition →
    ∀ other ∈ definitions, other.target = definition.target → circle other
  lookups : ∀ definition, circle definition →
    ∀ entry ∈ definition.dependencies document registry,
      ∀ other ∈ definitions, other.target = entry → circle other

/-- Definitions that rest on one another alone are not registered. -/
theorem Founded.not_contains_of_circular (founded : document.Founded definitions registry)
    {circle : Definition → Prop} (circular : document.Circular registry definitions circle)
    {definition : Definition} (inside : circle definition) :
    registry.contains definition.target = false := by
  -- The entry of lowest rank would have to rest on one of lower rank.
  have unranked (rank : Nat) : ∀ definition, circle definition →
      registry.entries[rank]? ≠ some definition.target := by
    induction rank using Nat.strong_induction_on with
    | _ rank inductionHypothesis =>
      intro definition inside found
      obtain ⟨maker, recorded, same, positive⟩ := founded.grounded rank _ found
      have makerInside := circular.targets definition inside maker recorded same
      obtain ⟨entry, lookedUp, known⟩ :=
        Definition.exists_dependency positive (circular.groundless maker makerInside)
      rw [maker.dependencies_congr document (registry.extends_upTo rank).instances.symm]
        at lookedUp
      obtain ⟨lower, below, placed⟩ := Registry.contains_upTo_iff.mp known
      obtain ⟨other, otherRecorded, otherTarget, _⟩ := founded.grounded lower entry placed
      refine inductionHypothesis lower below other
        (circular.lookups maker makerInside entry lookedUp other otherRecorded otherTarget) ?_
      rw [placed, otherTarget]
  rw [Bool.eq_false_iff]
  intro known
  simp only [Registry.contains, List.contains_iff_mem] at known
  obtain ⟨rank, found⟩ := List.mem_iff_getElem?.mp known
  exact unranked rank definition inside found

theorem exists_collectRegistry (document : Document) :
    ∃ registry, document.collectRegistry.under .lowered = .ok registry ∧
      document.Reaches document.recorded (document.instancesOf document.tree.walkOrder) registry :=
  ⟨_, document.collectRegistry_lowered, document.reaches_settledWork _ document.recorded⟩

theorem Founded.of_reaches {visited : List Nat}
    (reached : document.Reaches definitions (document.instancesOf visited) registry) :
    document.Founded definitions registry :=
  (founded_of_no_entries (document.entries_instancesOf visited)).reaches reached

/-- **No unfounded registration.** An undisturbed collection ends with a registry whose entries are
ranked by their registration: each of them has a definition that is positive with the entries of
lower rank alone. So definitions that rest on one another alone register nothing. -/
theorem collectRegistry_founded (document : Document) :
    ∃ registry, document.collectRegistry.under .lowered = .ok registry ∧
      registry.entries.Nodup ∧
      (∀ rank entry, registry.entries[rank]? = some entry →
        ∃ definition ∈ document.recorded, definition.target = entry ∧
          definition.isPositive document (registry.upTo rank) = true) ∧
      ∀ circle, document.Circular registry document.recorded circle →
        ∀ definition, circle definition → registry.contains definition.target = false := by
  obtain ⟨registry, collected, reached⟩ := document.exists_collectRegistry
  have founded := Founded.of_reaches reached
  exact ⟨registry, collected, founded.distinct, founded.grounded,
    fun circle circular definition inside => founded.not_contains_of_circular circular inside⟩

end Document

end PromiseDetection

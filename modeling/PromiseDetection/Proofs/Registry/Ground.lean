import Mathlib.Tactic.ByContra
import PromiseDetection.Registry.Definition

/-!
What a positive judgement rests on.

A definition is positive either whatever is registered or because of one registered entry, and it
waits for that entry. The class that a receiver stands for may change as the registry grows. But a
ground that a registry accepts was accepted by every smaller registry with that entry: a receiver
that is not yet known as a class in the larger registry was not known as one before.
-/

namespace PromiseDetection

namespace Registry

structure Extends (later earlier : Registry) : Prop where
  instances : later.instances = earlier.instances
  entries : ∀ entry, earlier.contains entry = true → later.contains entry = true

theorem Extends.refl (registry : Registry) : registry.Extends registry := ⟨rfl, fun _ => id⟩

theorem Extends.trans {last later earlier : Registry} (second : last.Extends later)
    (first : later.Extends earlier) : last.Extends earlier :=
  ⟨second.instances.trans first.instances,
    fun entry known => second.entries entry (first.entries entry known)⟩

theorem extends_register (registry : Registry) (entry : Entry) :
    (registry.register entry).Extends registry :=
  ⟨registry.instances_register entry,
    fun _ known => (registry.contains_register entry _).mpr (Or.inl known)⟩

theorem Extends.knowsClass {later earlier : Registry} (grown : later.Extends earlier)
    {owner : String} (known : earlier.knowsClass owner = true) : later.knowsClass owner = true := by
  obtain ⟨method, registered⟩ := knowsClass_iff.mp known
  exact knowsClass_iff.mpr ⟨method, grown.entries _ registered⟩

theorem Extends.classOfInstance? {later earlier : Registry} (grown : later.Extends earlier)
    (name : String) : later.classOfInstance? name = earlier.classOfInstance? name := by
  rw [Registry.classOfInstance?, Registry.classOfInstance?, grown.instances]

theorem any_classOfReceiver?_iff {registry : Registry} {receiver method : String} :
    ((registry.classOfReceiver? receiver).any fun owner => registry.hasMethod owner method) = true ↔
      registry.contains (.method receiver method) = true ∨
        registry.knowsClass receiver = false ∧
          ∃ owner, registry.classOfInstance? receiver = some owner ∧
            registry.contains (.method owner method) = true := by
  unfold classOfReceiver?
  cases known : registry.knowsClass receiver with
  | true => simp [hasMethod]
  | false =>
    have absent : registry.contains (.method receiver method) = false := by
      by_contra present
      exact absurd (knowsClass_iff.mpr ⟨method, by simpa using present⟩) (by simp [known])
    cases registry.classOfInstance? receiver <;> simp [hasMethod, absent]

end Registry

/-- What a test of registries rests on where it succeeds: nothing registered at all, or one of some
entries. Either way the smaller registries that have it succeed too. -/
def RestsOn (test : Registry → Bool) (registry : Registry) (entries : List Entry) : Prop :=
  (∀ earlier, registry.Extends earlier → test earlier = true) ∨
    ∃ entry ∈ entries, registry.contains entry = true ∧
      ∀ earlier, registry.Extends earlier → earlier.contains entry = true → test earlier = true

namespace RestsOn

variable {test : Registry → Bool} {registry : Registry} {entries : List Entry}

theorem always (holds : ∀ earlier, test earlier = true) : RestsOn test registry entries :=
  Or.inl fun earlier _ => holds earlier

theorem onEntry {entry : Entry} (membership : entry ∈ entries)
    (known : registry.contains entry = true)
    (found : ∀ earlier, registry.Extends earlier → earlier.contains entry = true →
      test earlier = true) : RestsOn test registry entries :=
  Or.inr ⟨entry, membership, known, found⟩

theorem mono {more : List Entry} {weaker : Registry → Bool}
    (rests : RestsOn test registry entries) (included : entries ⊆ more)
    (implied : ∀ earlier, test earlier = true → weaker earlier = true) :
    RestsOn weaker registry more := by
  rcases rests with holds | ⟨entry, membership, known, found⟩
  · exact Or.inl fun earlier grown => implied earlier (holds earlier grown)
  · exact onEntry (included membership) known
      fun earlier grown old => implied earlier (found earlier grown old)

theorem receiver {receiver method : String}
    (found : ((registry.classOfReceiver? receiver).any fun owner =>
      registry.hasMethod owner method) = true) :
    RestsOn
      (fun earlier => (earlier.classOfReceiver? receiver).any fun owner =>
        earlier.hasMethod owner method)
      registry
      (.method receiver method ::
        (registry.classOfInstance? receiver).toList.map fun owner => .method owner method) := by
  rcases Registry.any_classOfReceiver?_iff.mp found with known | ⟨hidden, owner, bound, known⟩
  · exact onEntry List.mem_cons_self known
      fun earlier _ old => Registry.any_classOfReceiver?_iff.mpr (Or.inl old)
  · have waited : Entry.method owner method ∈ Entry.method receiver method ::
        (registry.classOfInstance? receiver).toList.map fun owner => .method owner method := by
      simp [bound]
    refine onEntry waited known
      fun earlier grown old => Registry.any_classOfReceiver?_iff.mpr (Or.inr ⟨?_, owner, ?_, old⟩)
    · -- The receiver would be known as a class later, too.
      by_contra known
      exact absurd (grown.knowsClass (by simpa using known)) (by simp [hidden])
    · rw [← grown.classOfInstance?, bound]

end RestsOn

namespace Document

theorem callDependencies_congr (document : Document) {first second : Registry}
    (same : first.instances = second.instances) (call : Nat) :
    document.callDependencies first call = document.callDependencies second call := by
  simp only [callDependencies, Registry.classOfInstance?, same]

inductive CallGives (document : Document) (registry : Registry) (call : Nat) : Prop where
  | name {callee : Nat} (called : document.tree.childWith? call .callee = some callee)
      (named : document.tree.kind callee = .identifier)
      (known : document.textOf callee = "fetch" ∨
        registry.contains (.function (document.textOf callee)) = true)
  | member {callee receiver property : Nat}
      (called : document.tree.childWith? call .callee = some callee)
      (access : document.tree.kind callee = .memberExpression)
      (object : document.tree.childWith? callee .object = some receiver)
      (member : document.tree.childWith? callee .property = some property)
      (named : document.tree.kind receiver = .identifier)
      (known : (document.textOf receiver = "Promise" ∨
        ((registry.classOfReceiver? (document.textOf receiver)).any fun owner =>
          registry.hasMethod owner (document.textOf property)) = true) ∨
        registry.contains (.member (document.textOf receiver) (document.textOf property)) = true)
  | own {callee receiver property owner : Nat} {className : String}
      (called : document.tree.childWith? call .callee = some callee)
      (access : document.tree.kind callee = .memberExpression)
      (object : document.tree.childWith? callee .object = some receiver)
      (member : document.tree.childWith? callee .property = some property)
      (this : document.tree.kind receiver = .thisReference)
      (around : document.tree.thisClass? call = some owner)
      (named : document.nameOfClass? owner = some className)
      (known : registry.contains (.method className (document.textOf property)) = true)

theorem CallGives.of_callVerdict {document : Document} {registry : Registry} {call : Nat}
    (positive : document.callVerdict registry call = true) : document.CallGives registry call := by
  simp only [callVerdict] at positive
  split at positive
  · simp at positive
  · next callee called =>
    split at positive
    · next named =>
      simp only [Bool.or_eq_true, beq_iff_eq] at positive
      exact .name called named positive
    · next access =>
      split at positive
      · next receiver property object member =>
        split at positive
        · next named =>
          simp only [Bool.or_eq_true, beq_iff_eq] at positive
          exact .member called access object member named positive
        · next this =>
          obtain ⟨className, found, known⟩ := (Option.any_eq_true _ _).mp positive
          obtain ⟨owner, around, named⟩ := Option.bind_eq_some_iff.mp found
          exact .own called access object member this around named known
        · simp at positive
      · simp at positive
    · simp at positive

theorem CallGives.callVerdict {document : Document} {registry : Registry} {call : Nat}
    (gives : document.CallGives registry call) : document.callVerdict registry call = true := by
  cases gives with
  | name called named known =>
    simpa [Document.callVerdict, called, named, Registry.hasFunction] using known
  | member called access object member named known =>
    simpa [Document.callVerdict, called, access, object, member, named, Registry.hasMember]
      using known
  | own called access object member this around named known =>
    simpa [Document.callVerdict, called, access, object, member, this, around, named,
      Registry.hasMethod] using known

theorem restsOn_callVerdict (document : Document) (registry : Registry) (call : Nat)
    (positive : document.callVerdict registry call = true) :
    RestsOn (document.callVerdict · call) registry (document.callDependencies registry call) := by
  cases CallGives.of_callVerdict positive with
  | @name callee called named known =>
    rcases known with builtin | known
    · exact RestsOn.always fun _ => CallGives.callVerdict (.name called named (Or.inl builtin))
    · have waited : Entry.function (document.textOf callee) ∈
          document.callDependencies registry call := by
        simp [callDependencies, called, named]
      exact RestsOn.onEntry waited known
        fun _ _ old => CallGives.callVerdict (.name called named (Or.inr old))
  | @member callee receiver property called access object member named known =>
    have waits : document.callDependencies registry call =
        [.method (document.textOf receiver) (document.textOf property),
          .member (document.textOf receiver) (document.textOf property)] ++
        (registry.classOfInstance? (document.textOf receiver)).toList.map fun owner =>
          .method owner (document.textOf property) := by
      simp only [callDependencies, called, access, object, member, named]
    have gives (earlier : Registry) (holds : _) : document.callVerdict earlier call = true :=
      CallGives.callVerdict (.member called access object member named holds)
    rw [waits]
    rcases known with (builtin | found) | known
    · exact RestsOn.always fun earlier => gives earlier (Or.inl (Or.inl builtin))
    · exact (RestsOn.receiver found).mono (by simp +contextual)
        fun earlier holds => gives earlier (Or.inl (Or.inr holds))
    · exact RestsOn.onEntry (by simp) known fun earlier _ old => gives earlier (Or.inr old)
  | own called access object member this around named known =>
    refine RestsOn.onEntry ?_ known fun _ _ old =>
      CallGives.callVerdict (.own called access object member this around named old)
    simp [callDependencies, called, access, object, member, this, around, named]

theorem returnedVerdict_eq_callVerdict (document : Document) (registry : Registry) {returned : Nat}
    (called : document.tree.kind (document.tree.unwrap returned) = .callExpression) :
    document.returnedVerdict registry returned =
      document.callVerdict registry (document.tree.unwrap returned) := by
  simp [returnedVerdict, called]

theorem returnedVerdict_congr (document : Document) (first second : Registry) {returned : Nat}
    (other : document.tree.kind (document.tree.unwrap returned) ≠ .callExpression) :
    document.returnedVerdict first returned = document.returnedVerdict second returned := by
  simp only [returnedVerdict]
  split <;> first | rfl | contradiction

theorem functionVerdict_of_returned {document : Document} {registry : Registry}
    {function returned : Nat} (membership : returned ∈ document.tree.returnedValues function)
    (found : document.returnedVerdict registry returned = true) :
    document.functionVerdict registry function = true := by
  simp only [functionVerdict, Bool.or_eq_true, List.any_eq_true]
  exact Or.inr ⟨returned, membership, found⟩

theorem mem_dependencies_function {document : Document} {registry : Registry} {target : Entry}
    {function returned : Nat} {entry : Entry}
    (membership : returned ∈ document.tree.returnedValues function)
    (called : document.tree.kind (document.tree.unwrap returned) = .callExpression)
    (lookedUp : entry ∈ document.callDependencies registry (document.tree.unwrap returned)) :
    entry ∈ Definition.dependencies document registry { target, ground := .function function } := by
  refine List.mem_flatMap.mpr ⟨document.tree.unwrap returned, ?_, lookedUp⟩
  exact List.mem_filter.mpr ⟨List.mem_map_of_mem membership, by simpa using called⟩

end Document

namespace Definition

theorem dependencies_congr (document : Document) {first second : Registry}
    (same : first.instances = second.instances) (definition : Definition) :
    definition.dependencies document first = definition.dependencies document second := by
  unfold dependencies
  have calls : document.callDependencies first = document.callDependencies second :=
    funext (document.callDependencies_congr same)
  rw [calls]

theorem restsOn_isPositive (document : Document) (registry : Registry) (definition : Definition)
    (positive : definition.isPositive document registry = true) :
    RestsOn (definition.isPositive document ·) registry
      (definition.dependencies document registry) := by
  obtain ⟨target, ground⟩ := definition
  cases ground with
  | «alias» name =>
    have waited : Entry.function name ∈ [Entry.function name] := List.mem_cons_self
    exact RestsOn.onEntry waited positive fun _ _ old => old
  | function node =>
    simp only [isPositive] at positive ⊢
    have reasons := positive
    simp only [Document.functionVerdict, Bool.or_eq_true, List.any_eq_true] at reasons
    rcases reasons with written | ⟨returned, membership, found⟩
    · exact RestsOn.always fun earlier => by simp [Document.functionVerdict, written]
    · by_cases called : document.tree.kind (document.tree.unwrap returned) = .callExpression
      · rw [document.returnedVerdict_eq_callVerdict registry called] at found
        refine (document.restsOn_callVerdict registry _ found).mono
          (fun entry => Document.mem_dependencies_function membership called)
          fun earlier holds => Document.functionVerdict_of_returned membership ?_
        rw [document.returnedVerdict_eq_callVerdict earlier called, holds]
      · refine RestsOn.always fun earlier => Document.functionVerdict_of_returned membership ?_
        rw [document.returnedVerdict_congr earlier registry called, found]

end Definition

end PromiseDetection

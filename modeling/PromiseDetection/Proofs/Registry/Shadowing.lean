import PromiseDetection.Proofs.Registry.Foundation

/-!
What later registrations can take back.

A positive judgement survives the registrations after it, with one exception. A call on an instance
is looked up in the class that the variable was constructed from, until a method of a class with the
name of the variable is registered: from then on the receiver stands for that class. So an entry
that was registered for such a call can end up without any definition that the finished registry
accepts.
-/

namespace PromiseDetection

/-- A variable is an instance of a class with this method, but its name is known as the name of a
class without it. -/
structure Registry.Hides (registry : Registry) (name method : String) : Prop where
  bound : ∃ owner, registry.classOfInstance? name = some owner ∧
    registry.contains (.method owner method) = true
  known : registry.knowsClass name = true
  missing : registry.contains (.method name method) = false

theorem Registry.Extends.finds_or_hides {later earlier : Registry} (grown : later.Extends earlier)
    {receiver method : String}
    (found : ((earlier.classOfReceiver? receiver).any fun owner =>
      earlier.hasMethod owner method) = true) :
    ((later.classOfReceiver? receiver).any fun owner => later.hasMethod owner method) = true ∨
      later.Hides receiver method ∧ earlier.knowsClass receiver = false := by
  rw [any_classOfReceiver?_iff] at found ⊢
  rcases found with own | ⟨unknown, owner, bound, inherited⟩
  · exact Or.inl (Or.inl (grown.entries _ own))
  rw [← grown.classOfInstance?] at bound
  have kept := grown.entries _ inherited
  cases known : later.knowsClass receiver with
  | false => exact Or.inl (Or.inr ⟨rfl, owner, bound, kept⟩)
  | true =>
    cases missing : later.contains (.method receiver method) with
    | true => exact Or.inl (Or.inl rfl)
    | false => exact Or.inr ⟨⟨⟨owner, bound, kept⟩, known, missing⟩, unknown⟩

namespace Document

inductive ShadowedCall (document : Document) (registry : Registry) (name : String) (call : Nat) :
    Prop where
  | intro {callee receiver property : Nat}
      (called : document.tree.childWith? call .callee = some callee)
      (access : document.tree.kind callee = .memberExpression)
      (object : document.tree.childWith? callee .object = some receiver)
      (member : document.tree.childWith? callee .property = some property)
      (named : document.tree.kind receiver = .identifier ∧ document.textOf receiver = name)
      (hidden : registry.Hides name (document.textOf property))

theorem ShadowedCall.exists_hides {document : Document} {registry : Registry} {name : String}
    {call : Nat} (shadowed : document.ShadowedCall registry name call) :
    ∃ method, registry.Hides name method := by
  obtain ⟨_, _, _, _, _, hidden⟩ := shadowed
  exact ⟨_, hidden⟩

/-- A positive call stays positive, unless its receiver becomes known as a class. -/
theorem callVerdict_or_shadowed (document : Document) {later earlier : Registry}
    (grown : later.Extends earlier) {call : Nat}
    (positive : document.callVerdict earlier call = true) :
    document.callVerdict later call = true ∨
      ∃ name, document.ShadowedCall later name call ∧ earlier.knowsClass name = false := by
  have kept := grown.entries
  cases CallGives.of_callVerdict positive with
  | name called named known =>
    left
    apply CallGives.callVerdict
    exact .name called named (known.imp_right (kept _))
  | own called access object member this around named known =>
    left
    apply CallGives.callVerdict
    exact .own called access object member this around named (kept _ known)
  | member called access object member named known =>
    rcases known with (builtin | found) | known
    · left
      apply CallGives.callVerdict
      exact .member called access object member named (Or.inl (Or.inl builtin))
    · rcases grown.finds_or_hides found with still | ⟨hidden, unknown⟩
      · left
        apply CallGives.callVerdict
        exact .member called access object member named (Or.inl (Or.inr still))
      · right
        exact ⟨_, .intro called access object member ⟨named, rfl⟩ hidden, unknown⟩
    · left
      apply CallGives.callVerdict
      exact .member called access object member named (Or.inr (kept _ known))

end Document

inductive Definition.IsShadowed (document : Document) (registry : Registry) (name : String) :
    Definition → Prop where
  | returned {target : Entry} {function returned : Nat}
      (membership : returned ∈ document.tree.returnedValues function)
      (kind : document.tree.kind (document.tree.unwrap returned) = .callExpression)
      (shadowed : document.ShadowedCall registry name (document.tree.unwrap returned)) :
      IsShadowed document registry name { target, ground := .function function }

namespace Definition

variable {document : Document} {registry : Registry} {definition : Definition} {name : String}

theorem IsShadowed.exists_hides (shadowed : definition.IsShadowed document registry name) :
    ∃ method, registry.Hides name method := by
  obtain ⟨_, _, shadowed⟩ := shadowed
  exact shadowed.exists_hides

theorem isPositive_or_shadowed (document : Document) {later earlier : Registry}
    (grown : later.Extends earlier) (positive : definition.isPositive document earlier = true) :
    definition.isPositive document later = true ∨
      ∃ name, definition.IsShadowed document later name ∧ earlier.knowsClass name = false := by
  obtain ⟨target, ground⟩ := definition
  cases ground with
  | «alias» name => exact Or.inl (grown.entries _ positive)
  | function function =>
    simp only [isPositive, Document.functionVerdict, Bool.or_eq_true,
      List.any_eq_true] at positive ⊢
    rcases positive with written | ⟨returned, membership, found⟩
    · exact Or.inl (Or.inl written)
    · by_cases called : document.tree.kind (document.tree.unwrap returned) = .callExpression
      · rw [document.returnedVerdict_eq_callVerdict _ called] at found
        rcases document.callVerdict_or_shadowed grown found with still | ⟨name, shadowed, unknown⟩
        · rw [← document.returnedVerdict_eq_callVerdict _ called] at still
          exact Or.inl (Or.inr ⟨returned, membership, still⟩)
        · exact Or.inr ⟨name, .returned membership called shadowed, unknown⟩
      · rw [document.returnedVerdict_congr earlier later called] at found
        exact Or.inl (Or.inr ⟨returned, membership, found⟩)

end Definition

namespace Document

variable {document : Document} {definitions : List Definition} {registry : Registry}

def Confirms (document : Document) (definitions : List Definition) (registry : Registry)
    (entry : Entry) : Prop :=
  ∃ definition ∈ definitions, definition.target = entry ∧
    definition.isPositive document registry = true

/-- A founded entry is confirmed by the whole registry, or one of its definitions is shadowed. -/
theorem Founded.confirms_or_shadowed (founded : document.Founded definitions registry)
    {entry : Entry} (known : registry.contains entry = true) :
    document.Confirms definitions registry entry ∨
      ∃ definition ∈ definitions, definition.target = entry ∧
        ∃ name, definition.IsShadowed document registry name := by
  simp only [Registry.contains, List.contains_iff_mem] at known
  obtain ⟨rank, placed⟩ := List.mem_iff_getElem?.mp known
  obtain ⟨definition, recorded, target, positive⟩ := founded.grounded rank entry placed
  rcases definition.isPositive_or_shadowed document (registry.extends_upTo rank) positive with
    still | ⟨name, shadowed, _⟩
  · exact Or.inl ⟨definition, recorded, target, still⟩
  · exact Or.inr ⟨definition, recorded, target, name, shadowed⟩

/-- **Confirmation.** An undisturbed collection ends with a registry that confirms each of its
entries, apart from entries with a definition that is shadowed in the end. -/
theorem collectRegistry_confirms_or_shadowed (document : Document) :
    ∃ registry, document.collectRegistry.under .lowered = .ok registry ∧
      ∀ entry, registry.contains entry = true →
        document.Confirms document.recorded registry entry ∨
          ∃ definition ∈ document.recorded, definition.target = entry ∧
            ∃ name, definition.IsShadowed document registry name := by
  obtain ⟨registry, collected, reached⟩ := document.exists_collectRegistry
  exact ⟨registry, collected, fun _ known => (Founded.of_reaches reached).confirms_or_shadowed known⟩

def lateClassNodes : Array Node :=
  #[⟨.program, true, none, 0, 102, none⟩, ⟨.classDeclaration, true, none, 0, 24, some 0⟩,
    ⟨.classExpression, false, none, 0, 5, some 1⟩,
    ⟨.typeIdentifier, true, some .name, 6, 7, some 1⟩,
    ⟨.classBody, true, some .body, 8, 24, some 1⟩, ⟨.other "\x7b", false, none, 8, 9, some 4⟩,
    ⟨.methodDefinition, true, none, 10, 22, some 4⟩, ⟨.asyncWord, false, none, 10, 15, some 6⟩,
    ⟨.propertyIdentifier, true, some .name, 16, 17, some 6⟩,
    ⟨.other "formal_parameters", true, some .parameters, 17, 19, some 6⟩,
    ⟨.other "(", false, none, 17, 18, some 9⟩, ⟨.other ")", false, none, 18, 19, some 9⟩,
    ⟨.statementBlock, true, some .body, 20, 22, some 6⟩,
    ⟨.other "\x7b", false, none, 20, 21, some 12⟩, ⟨.other "\x7d", false, none, 21, 22, some 12⟩,
    ⟨.other "\x7d", false, none, 23, 24, some 4⟩,
    ⟨.functionDeclaration, true, none, 25, 73, some 0⟩,
    ⟨.functionWord, false, none, 25, 33, some 16⟩, ⟨.identifier, true, some .name, 34, 35, some 16⟩,
    ⟨.other "formal_parameters", true, some .parameters, 35, 37, some 16⟩,
    ⟨.other "(", false, none, 35, 36, some 19⟩, ⟨.other ")", false, none, 36, 37, some 19⟩,
    ⟨.statementBlock, true, some .body, 38, 73, some 16⟩,
    ⟨.other "\x7b", false, none, 38, 39, some 22⟩,
    ⟨.lexicalDeclaration, true, none, 40, 58, some 22⟩,
    ⟨.other "const", false, none, 40, 45, some 24⟩,
    ⟨.variableDeclarator, true, none, 46, 57, some 24⟩,
    ⟨.identifier, true, some .name, 46, 47, some 26⟩, ⟨.other "=", false, none, 48, 49, some 26⟩,
    ⟨.newExpression, true, some .value, 50, 57, some 26⟩,
    ⟨.other "new", false, none, 50, 53, some 29⟩,
    ⟨.identifier, true, some .constructed, 54, 55, some 29⟩,
    ⟨.other "arguments", true, none, 55, 57, some 29⟩, ⟨.other "(", false, none, 55, 56, some 32⟩,
    ⟨.other ")", false, none, 56, 57, some 32⟩, ⟨.other ";", false, none, 57, 58, some 24⟩,
    ⟨.returnStatement, true, none, 59, 71, some 22⟩,
    ⟨.other "return", false, none, 59, 65, some 36⟩, ⟨.callExpression, true, none, 66, 71, some 36⟩,
    ⟨.memberExpression, true, some .callee, 66, 69, some 38⟩,
    ⟨.identifier, true, some .object, 66, 67, some 39⟩, ⟨.other ".", false, none, 67, 68, some 39⟩,
    ⟨.propertyIdentifier, true, some .property, 68, 69, some 39⟩,
    ⟨.other "arguments", true, none, 69, 71, some 38⟩, ⟨.other "(", false, none, 69, 70, some 43⟩,
    ⟨.other ")", false, none, 70, 71, some 43⟩, ⟨.other "\x7d", false, none, 72, 73, some 22⟩,
    ⟨.classDeclaration, true, none, 74, 98, some 0⟩,
    ⟨.classExpression, false, none, 74, 79, some 47⟩,
    ⟨.typeIdentifier, true, some .name, 80, 81, some 47⟩,
    ⟨.classBody, true, some .body, 82, 98, some 47⟩, ⟨.other "\x7b", false, none, 82, 83, some 50⟩,
    ⟨.methodDefinition, true, none, 84, 96, some 50⟩, ⟨.asyncWord, false, none, 84, 89, some 52⟩,
    ⟨.propertyIdentifier, true, some .name, 90, 91, some 52⟩,
    ⟨.other "formal_parameters", true, some .parameters, 91, 93, some 52⟩,
    ⟨.other "(", false, none, 91, 92, some 55⟩, ⟨.other ")", false, none, 92, 93, some 55⟩,
    ⟨.statementBlock, true, some .body, 94, 96, some 52⟩,
    ⟨.other "\x7b", false, none, 94, 95, some 58⟩, ⟨.other "\x7d", false, none, 95, 96, some 58⟩,
    ⟨.other "\x7d", false, none, 97, 98, some 50⟩,
    ⟨.expressionStatement, true, none, 99, 102, some 0⟩,
    ⟨.callExpression, true, none, 99, 102, some 62⟩,
    ⟨.identifier, true, some .callee, 99, 100, some 63⟩,
    ⟨.other "arguments", true, none, 100, 102, some 63⟩,
    ⟨.other "(", false, none, 100, 101, some 65⟩, ⟨.other ")", false, none, 101, 102, some 65⟩]

def lateClass : Document where
  text := "class R \x7b async g() \x7b\x7d \x7d\n" ++
    "function f() \x7b const S = new R(); return S.g() \x7d\n" ++
    "class S \x7b async s() \x7b\x7d \x7d\nf()"
  tree :=
    { nodes := lateClassNodes
      ends := Tree.endsOf lateClassNodes
      nonempty := by decide +kernel
      ends_size := by decide +kernel
      nested := by decide +kernel }

theorem instancesOf_lateClass :
    lateClass.instancesOf lateClass.tree.walkOrder =
      { entries := [], instances := [("S", "R")] } := by
  rw [Tree.walkOrder_eq]
  decide +kernel

theorem recorded_lateClass :
    lateClass.recorded =
      [⟨.method "R" "g", .function 6⟩, ⟨.function "f", .function 16⟩,
        ⟨.method "S" "s", .function 52⟩] := by
  rw [recorded, Tree.walkOrder_eq]
  decide +kernel

/-- The function is registered while `S` is an instance of `R`, and its call is registered with it.
Once `S` is known as a class, the function itself is negative. -/
theorem not_confirms_lateClass :
    ∃ registry, lateClass.collectRegistry.under .lowered = .ok registry ∧
      registry.contains (.function "f") = true ∧
        ¬ lateClass.Confirms lateClass.recorded registry (.function "f") := by
  refine ⟨_, lateClass.collectRegistry_lowered, ?_, ?_⟩ <;>
    rw [← recorded, instancesOf_lateClass, recorded_lateClass]
  · decide +kernel
  · have negative : ∀ definition ∈ ([⟨.method "R" "g", .function 6⟩, ⟨.function "f", .function 16⟩,
        ⟨.method "S" "s", .function 52⟩] : List Definition), definition.target = .function "f" →
          definition.isPositive lateClass
            (lateClass.settledWork { entries := [], instances := [("S", "R")] }
              [⟨.method "R" "g", .function 6⟩, ⟨.function "f", .function 16⟩,
                ⟨.method "S" "s", .function 52⟩]).registry = false := by
      decide +kernel
    rintro ⟨definition, recorded, target, positive⟩
    rw [negative definition recorded target] at positive
    simp at positive

/-- Nothing is taken back where no instance variable has the name of a class with methods. -/
theorem collectRegistry_confirms_of_distinct_names
    (distinct : ∀ definition ∈ document.recorded, ∀ owner method,
      definition.target = .method owner method →
        (document.instancesOf document.tree.walkOrder).classOfInstance? owner = none) :
    ∃ registry, document.collectRegistry.under .lowered = .ok registry ∧
      ∀ entry, registry.contains entry = true →
        document.Confirms document.recorded registry entry := by
  obtain ⟨registry, collected, reached⟩ := document.exists_collectRegistry
  have founded := Founded.of_reaches reached
  refine ⟨registry, collected, fun entry known => ?_⟩
  rcases founded.confirms_or_shadowed known with confirmed | ⟨_, _, _, name, shadowed⟩
  · exact confirmed
  · obtain ⟨hidden, hides⟩ := shadowed.exists_hides
    obtain ⟨method, registered⟩ := Registry.knowsClass_iff.mp hides.known
    obtain ⟨definition, recorded, target⟩ := founded.exists_definition registered
    obtain ⟨owner, bound, _⟩ := hides.bound
    rw [reached.extends.classOfInstance?, distinct definition recorded name method target] at bound
    simp at bound

end Document

end PromiseDetection

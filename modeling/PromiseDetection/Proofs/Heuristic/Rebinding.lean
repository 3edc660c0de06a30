import PromiseDetection.Proofs.Modules.Nearest
import PromiseDetection.Proofs.Registry.Foundation

/-!
Built-in names that are bound again.

A look-up takes `fetch` and `Promise` for the builtins only where no scope around declares them. The
heuristics go by the spelling alone. So wherever a scope binds one of the names again, a call by
this name is still positive, whatever is registered, and a function that returns such a call is
registered for it.
-/

namespace PromiseDetection

namespace Document

variable (document : Document)

/-- A call names a builtin at some place: by the callee `fetch`, or by the receiver `Promise` of the
member that it calls. -/
inductive NamesBuiltin (call : Nat) : String → Nat → Prop where
  | fetch {callee : Nat} (called : document.tree.childWith? call .callee = some callee)
      (named : document.tree.kind callee = .identifier) (word : document.textOf callee = "fetch") :
      NamesBuiltin call "fetch" callee
  | static {callee receiver property : Nat}
      (called : document.tree.childWith? call .callee = some callee)
      (access : document.tree.kind callee = .memberExpression)
      (object : document.tree.childWith? callee .object = some receiver)
      (member : document.tree.childWith? callee .property = some property)
      (named : document.tree.kind receiver = .identifier)
      (word : document.textOf receiver = "Promise") : NamesBuiltin call "Promise" receiver

/-- Some scope around a place binds the name: by a parameter, a declarator, a function, a class or
an import. -/
def IsRebound (name : String) (place : Nat) : Prop :=
  ∃ scope, document.tree.IsAround scope place ∧
    (document.Binds name scope ∨ document.Declares name scope)

def NamesRebound (call : Nat) : Prop :=
  ∃ name place, document.NamesBuiltin call name place ∧ document.IsRebound name place

inductive RegistryGives (registry : Registry) (call : Nat) : Prop where
  | function {callee : Nat} (called : document.tree.childWith? call .callee = some callee)
      (named : document.tree.kind callee = .identifier)
      (known : registry.contains (.function (document.textOf callee)) = true)
  | member {callee receiver property : Nat}
      (called : document.tree.childWith? call .callee = some callee)
      (access : document.tree.kind callee = .memberExpression)
      (object : document.tree.childWith? callee .object = some receiver)
      (member : document.tree.childWith? callee .property = some property)
      (named : document.tree.kind receiver = .identifier)
      (known : ((registry.classOfReceiver? (document.textOf receiver)).any fun owner =>
          registry.hasMethod owner (document.textOf property)) = true ∨
        registry.contains (.member (document.textOf receiver) (document.textOf property)) = true)
  | own {callee receiver property owner : Nat} {className : String}
      (called : document.tree.childWith? call .callee = some callee)
      (access : document.tree.kind callee = .memberExpression)
      (object : document.tree.childWith? callee .object = some receiver)
      (member : document.tree.childWith? callee .property = some property)
      (this : document.tree.kind receiver = .thisReference)
      (around : document.tree.thisClass? call = some owner)
      (named : document.nameOfClass? owner = some className)
      (known : registry.contains (.method className (document.textOf property)) = true)

/-- A call gives a promise by what is registered, or by a builtin that goes by its own name. -/
def GivesByScope (registry : Registry) (call : Nat) : Prop :=
  document.RegistryGives registry call ∨
    ∃ name place, document.NamesBuiltin call name place ∧ ¬ document.IsRebound name place

/-- The names of builtins count as such only where they are not bound again: every other positive
call is one of the registry. -/
def ScopesBuiltins (registry : Registry) : Prop :=
  ∀ call, document.callVerdict registry call = true → document.GivesByScope registry call

def ReturnedByScope (registry : Registry) (returned : Nat) : Prop :=
  if document.tree.kind (document.tree.unwrap returned) = .callExpression then
    document.GivesByScope registry (document.tree.unwrap returned)
  else document.returnedVerdict registry returned = true

def FunctionByScope (registry : Registry) (function : Nat) : Prop :=
  document.tree.isAsync function = true ∨ document.declaresPromise function = true ∨
    ∃ returned ∈ document.tree.returnedValues function, document.ReturnedByScope registry returned

def ReturnsRebound (function : Nat) : Prop :=
  ∃ returned ∈ document.tree.returnedValues function,
    document.tree.kind (document.tree.unwrap returned) = .callExpression ∧
      document.NamesRebound (document.tree.unwrap returned)

end Document

namespace Definition

def PositiveByScope (document : Document) (registry : Registry) (definition : Definition) : Prop :=
  match definition.ground with
  | .function function => document.FunctionByScope registry function
  | .alias name => registry.contains (.function name) = true

def RestsOnRebound (document : Document) (definition : Definition) : Prop :=
  ∃ function, definition.ground = .function function ∧ document.ReturnsRebound function

end Definition

namespace Document

variable {document : Document} {registry : Registry} {call function returned place : Nat}
variable {name : String}

theorem NamesBuiltin.name_eq (names : document.NamesBuiltin call name place) :
    name = "Promise" ∨ name = "fetch" := by
  cases names with
  | fetch => exact Or.inr rfl
  | static => exact Or.inl rfl

theorem NamesBuiltin.unique {other : String} {elsewhere : Nat}
    (first : document.NamesBuiltin call name place)
    (second : document.NamesBuiltin call other elsewhere) : name = other ∧ place = elsewhere := by
  cases first with
  | fetch called named =>
    cases second with
    | fetch again => exact ⟨rfl, by simpa [called] using again⟩
    | static again access =>
      rw [called, Option.some.injEq] at again
      simp [← again, named] at access
  | static called access object =>
    cases second with
    | fetch again named =>
      rw [called, Option.some.injEq] at again
      simp [← again, access] at named
    | static again _ same =>
      rw [called, Option.some.injEq] at again
      exact ⟨rfl, by simpa [← again, object] using same⟩

theorem NamesBuiltin.callGives (names : document.NamesBuiltin call name place) :
    document.CallGives registry call := by
  cases names with
  | fetch called named word => exact .name called named (Or.inl word)
  | static called access object member named word =>
    exact .member called access object member named (Or.inl (Or.inl word))

theorem RegistryGives.callGives (gives : document.RegistryGives registry call) :
    document.CallGives registry call := by
  cases gives with
  | function called named known => exact .name called named (Or.inr known)
  | member called access object member named known =>
    refine .member called access object member named ?_
    rw [or_assoc]
    exact Or.inr known
  | own called access object member this around named known =>
    exact .own called access object member this around named known

theorem CallGives.registryGives_or_namesBuiltin (gives : document.CallGives registry call) :
    document.RegistryGives registry call ∨ ∃ name place, document.NamesBuiltin call name place := by
  cases gives with
  | name called named known =>
    rcases known with word | known
    · exact Or.inr ⟨_, _, .fetch called named word⟩
    · exact Or.inl (.function called named known)
  | member called access object member named known =>
    rcases or_assoc.mp known with word | known
    · exact Or.inr ⟨_, _, .static called access object member named word⟩
    · exact Or.inl (.member called access object member named known)
  | own called access object member this around named known =>
    exact Or.inl (.own called access object member this around named known)

/-- A positive call is one by scope, or it names a builtin where the name is bound again. -/
theorem callVerdict_iff :
    document.callVerdict registry call = true ↔
      document.GivesByScope registry call ∨ document.NamesRebound call := by
  constructor
  · intro positive
    rcases (CallGives.of_callVerdict positive).registryGives_or_namesBuiltin with
      gives | ⟨name, place, names⟩
    · exact Or.inl (Or.inl gives)
    · by_cases rebound : document.IsRebound name place
      · exact Or.inr ⟨name, place, names, rebound⟩
      · exact Or.inl (Or.inr ⟨name, place, names, rebound⟩)
  · rintro ((gives | ⟨_, _, names, _⟩) | ⟨_, _, names, _⟩)
    · exact gives.callGives.callVerdict
    · exact names.callGives.callVerdict
    · exact names.callGives.callVerdict

theorem NamesRebound.givesByScope_iff (rebound : document.NamesRebound call) :
    document.GivesByScope registry call ↔ document.RegistryGives registry call := by
  obtain ⟨name, place, names, bound⟩ := rebound
  refine or_iff_left ?_
  rintro ⟨other, elsewhere, again, free⟩
  obtain ⟨rfl, rfl⟩ := names.unique again
  exact free bound

theorem returnedVerdict_iff :
    document.returnedVerdict registry returned = true ↔
      document.ReturnedByScope registry returned ∨
        document.tree.kind (document.tree.unwrap returned) = .callExpression ∧
          document.NamesRebound (document.tree.unwrap returned) := by
  by_cases called : document.tree.kind (document.tree.unwrap returned) = .callExpression
  · simp [ReturnedByScope, called, returnedVerdict_eq_callVerdict, callVerdict_iff]
  · simp [ReturnedByScope, called]

theorem functionVerdict_iff :
    document.functionVerdict registry function = true ↔
      document.FunctionByScope registry function ∨ document.ReturnsRebound function := by
  simp only [functionVerdict, Bool.or_eq_true, List.any_eq_true, returnedVerdict_iff,
    FunctionByScope, ReturnsRebound, and_or_left, exists_or, or_assoc]

end Document

theorem Definition.isPositive_iff {document : Document} {registry : Registry}
    {definition : Definition} :
    definition.isPositive document registry = true ↔
      definition.PositiveByScope document registry ∨ definition.RestsOnRebound document := by
  obtain ⟨target, ground⟩ := definition
  cases ground with
  | «alias» name => simp [isPositive, PositiveByScope, RestsOnRebound, Registry.hasFunction]
  | function function =>
    simp [isPositive, PositiveByScope, RestsOnRebound, Document.functionVerdict_iff]

namespace ModuleGraph

variable {graph : ModuleGraph} {name : String}

/-- A look-up takes a name for a builtin exactly if the name is one of a builtin value and no scope
around declares it. -/
theorem exists_valueNamed_builtin_iff {place : Site} :
    (∃ builtin, graph.valueNamed name place = .ok (.builtin builtin)) ↔
      (name = "Promise" ∨ name = "fetch") ∧
        ∀ scope, (graph.tree place.module).IsAround scope place.node →
          ¬ (graph.document place.module).Declares name scope := by
  have undeclared : (∀ scope, (graph.tree place.module).IsAround scope place.node →
      ¬ (graph.document place.module).Declares name scope) ↔
        graph.declarationAt? place.module name .value place.node = none := by
    rw [← Option.not_isSome_iff_eq_none, isSome_declarationAt?_iff]
    push Not
    rfl
  rw [undeclared]
  unfold valueNamed
  cases found : graph.declarationAt? place.module name .value place.node with
  | none =>
    simp only [and_true]
    split <;> simp_all
  | some declaration =>
    simp only [Except.ok.injEq, reduceCtorEq, and_false, iff_false, not_exists]
    rintro builtin rfl
    exact isOwn_declarationAt? found

end ModuleGraph

namespace Document

/-- **Builtins and scopes.** The heuristics respect the scopes of builtin names exactly if every
call by such a name at a place where it is bound again gives a promise by what is registered. A call
is positive if it gives a promise by scope or names a builtin that is bound again, and nothing else
is. The collected registry rests on the same: each entry has a definition that is positive by scope
with the entries registered before, or that returns a call by a name that is bound again. In a
module a look-up takes the name of such a call for the builtin exactly if no scope around declares
it. -/
theorem scopesBuiltins_iff (document : Document) :
    (∀ registry, document.ScopesBuiltins registry ↔
      ∀ call, document.NamesRebound call → document.RegistryGives registry call) ∧
    (∀ registry call, document.callVerdict registry call = true ↔
      document.GivesByScope registry call ∨ document.NamesRebound call) ∧
    (∃ registry, document.collectRegistry.under .lowered = .ok registry ∧
      ∀ rank entry, registry.entries[rank]? = some entry →
        ∃ definition ∈ document.recorded, definition.target = entry ∧
          (definition.PositiveByScope document (registry.upTo rank) ∨
            definition.RestsOnRebound document)) ∧
    ∀ (graph : ModuleGraph) module, graph.document module = document → ∀ call name place,
      document.NamesBuiltin call name place →
        ((∃ builtin, graph.valueNamed name { node := place, module } = .ok (.builtin builtin)) ↔
          ∀ scope, document.tree.IsAround scope place → ¬ document.Declares name scope) := by
  refine ⟨fun registry => ⟨?_, ?_⟩, fun _ _ => callVerdict_iff, ?_, ?_⟩
  · intro scopes call rebound
    exact rebound.givesByScope_iff.mp (scopes call (callVerdict_iff.mpr (Or.inr rebound)))
  · intro registered call positive
    rcases callVerdict_iff.mp positive with gives | rebound
    · exact gives
    · exact Or.inl (registered call rebound)
  · obtain ⟨registry, collected, reached⟩ := document.exists_collectRegistry
    refine ⟨registry, collected, fun rank entry found => ?_⟩
    obtain ⟨definition, recorded, target, positive⟩ :=
      (Founded.of_reaches reached).grounded rank entry found
    exact ⟨definition, recorded, target, Definition.isPositive_iff.mp positive⟩
  · rintro graph module rfl call name place names
    rw [ModuleGraph.exists_valueNamed_builtin_iff, and_iff_right names.name_eq]
    rfl

def ownFetchNodes : Array Node :=
  #[⟨.program, true, none, 0, 57, none⟩, ⟨.lexicalDeclaration, true, none, 0, 22, some 0⟩,
    ⟨.other "const", false, none, 0, 5, some 1⟩, ⟨.variableDeclarator, true, none, 6, 21, some 1⟩,
    ⟨.identifier, true, some .name, 6, 11, some 3⟩, ⟨.other "=", false, none, 12, 13, some 3⟩,
    ⟨.arrowFunction, true, some .value, 14, 21, some 3⟩,
    ⟨.other "formal_parameters", true, some .parameters, 14, 16, some 6⟩,
    ⟨.other "(", false, none, 14, 15, some 7⟩, ⟨.other ")", false, none, 15, 16, some 7⟩,
    ⟨.other "=>", false, none, 17, 19, some 6⟩, ⟨.numberLiteral, true, some .body, 20, 21, some 6⟩,
    ⟨.other ";", false, none, 21, 22, some 1⟩, ⟨.functionDeclaration, true, none, 23, 57, some 0⟩,
    ⟨.functionWord, false, none, 23, 31, some 13⟩,
    ⟨.identifier, true, some .name, 32, 36, some 13⟩,
    ⟨.other "formal_parameters", true, some .parameters, 36, 38, some 13⟩,
    ⟨.other "(", false, none, 36, 37, some 16⟩, ⟨.other ")", false, none, 37, 38, some 16⟩,
    ⟨.statementBlock, true, some .body, 39, 57, some 13⟩,
    ⟨.other "\x7b", false, none, 39, 40, some 19⟩, ⟨.returnStatement, true, none, 41, 55, some 19⟩,
    ⟨.other "return", false, none, 41, 47, some 21⟩,
    ⟨.callExpression, true, none, 48, 55, some 21⟩,
    ⟨.identifier, true, some .callee, 48, 53, some 23⟩,
    ⟨.other "arguments", true, none, 53, 55, some 23⟩, ⟨.other "(", false, none, 53, 54, some 25⟩,
    ⟨.other ")", false, none, 54, 55, some 25⟩, ⟨.other "\x7d", false, none, 56, 57, some 19⟩]

def ownFetch : Document where
  text := "const fetch = () => 1;\nfunction load() \x7b return fetch() \x7d"
  tree :=
    { nodes := ownFetchNodes
      ends := Tree.endsOf ownFetchNodes
      nonempty := by decide +kernel
      ends_size := by decide +kernel
      nested := by decide +kernel }

/-- The program declares `fetch` as a function that gives a number. Its call is positive all the
same, and what is registered is only the function that returns this call. -/
theorem not_scopesBuiltins_ownFetch :
    ∃ registry, ownFetch.collectRegistry.under .lowered = .ok registry ∧
      registry.entries = [.function "load"] ∧
      ¬ ownFetch.ScopesBuiltins registry := by
  have names : ownFetch.NamesBuiltin 23 "fetch" 24 :=
    .fetch (by decide +kernel) (by decide +kernel) (by decide +kernel)
  have rebound : ownFetch.IsRebound "fetch" 24 := by
    refine ⟨0, Or.inr (by decide +kernel), Or.inr (Or.inr ⟨by decide +kernel, 1, by decide +kernel,
      1, .itself, ?_⟩)⟩
    have kind : ownFetch.tree.kind 1 = .lexicalDeclaration := by decide +kernel
    simp only [StatementDeclares, kind]
    exact ⟨4, ⟨Or.inl kind, 3, by decide +kernel, by decide +kernel, by decide +kernel⟩,
      by decide +kernel, by decide +kernel⟩
  have collected : (ownFetch.settledWork (ownFetch.instancesOf ownFetch.tree.walkOrder)
      (ownFetch.definitionsOf ownFetch.tree.walkOrder)).registry =
        { entries := [.function "load"], instances := [] } := by
    rw [Tree.walkOrder_eq]
    decide +kernel
  refine ⟨_, ownFetch.collectRegistry_lowered, by rw [collected], fun scopes => ?_⟩
  rw [collected] at scopes
  have gives := (NamesRebound.givesByScope_iff ⟨_, _, names, rebound⟩).mp
    (scopes 23 names.callGives.callVerdict)
  have callee {node : Nat} (called : ownFetch.tree.childWith? 23 .callee = some node) :
      node = 24 := by
    have found : ownFetch.tree.childWith? 23 .callee = some 24 := by decide +kernel
    simpa [found, eq_comm] using called
  have word : ownFetch.textOf 24 = "fetch" := by decide +kernel
  have kind : ownFetch.tree.kind 24 = .identifier := by decide +kernel
  cases gives with
  | function called named known =>
    simp [callee called, word, Registry.contains] at known
  | member called access => simp [callee called, kind] at access
  | own called access => simp [callee called, kind] at access

end Document

end PromiseDetection

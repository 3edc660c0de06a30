import PromiseDetection.Proofs.Typing.Law
import PromiseDetection.Typing.Inference

/-!
Inference keeps every law.

Each rule puts its answer together from the answers one level below and from look-ups in the graph.
So a law that the answers below keep is kept by the answers of the rule, and a law that holds of how
functions are read and types are awaited holds of all judgements with any number of levels.
-/

namespace PromiseDetection

/-- The law holds of how functions are read and of how types are awaited in a graph. -/
structure Manner.Lawful {ι : Type} (law : Law ι) (graph : ModuleGraph) (manners : ι → Manner) :
    Prop where
  read : ∀ reads : ι → Site → Infer Ty,
    (∀ function, law.allows fun index => reads index function) →
      ∀ function, law.allows fun index => (manners index).read (reads index) function
  await : ∀ (levels : Nat) (thenable : ι → Ty → Inquiry Bool),
    (∀ type, law.holds fun index => thenable index type) →
      ∀ type, law.holds fun index => (manners index).await graph levels (thenable index) type

namespace Judgements

/-- The law holds of the answers to every question. -/
structure Lawful {ι : Type} (law : Law ι) (judgements : ι → Judgements) : Prop where
  expression : ∀ place, law.allows fun index => (judgements index).expression place
  declaration : ∀ known, law.allows fun index => (judgements index).declaration known
  member : ∀ owner name, law.allows fun index => (judgements index).member owner name
  memberOfClass : ∀ owner name isStatic,
    law.allows fun index => (judgements index).memberOfClass owner name isStatic
  signature : ∀ callee, law.allows fun index => (judgements index).signature callee
  functionReturn : ∀ function, law.allows fun index => (judgements index).functionReturn function
  thenable : ∀ type, law.holds fun index => (judgements index).thenable type
  awaited : ∀ type, law.holds fun index => (judgements index).awaited type

namespace Lawful

variable {ι : Type} {law : Law ι} {below : ι → Judgements}

theorem callReturn (lawful : Lawful law below) (graph : ModuleGraph) (call : Site) :
    law.allows fun index => (below index).callReturn graph call := by
  simp only [Judgements.callReturn]
  split
  · exact law.allows_throw _
  · split
    · exact law.allows_pure _
    · exact Law.allows_bind (lawful.expression _) lawful.signature

theorem parentClass? (lawful : Lawful law below) (graph : ModuleGraph) (owner : Site) :
    law.allows fun index => (below index).parentClass? graph owner := by
  simp only [Judgements.parentClass?]
  split
  · exact law.allows_pure _
  · apply Law.allows_bind (lawful.expression _)
    intro type
    cases type <;> exact law.allows_pure _

theorem ownMember? (lawful : Lawful law below) (graph : ModuleGraph) (owner : Site)
    (name : String) (isStatic : Bool) (element : Nat) :
    (∀ index, (below index).ownMember? graph owner name isStatic element = none) ∨
      ∃ answers : ι → Infer Ty, law.allows answers ∧
        ∀ index, (below index).ownMember? graph owner name isStatic element =
          some (answers index) := by
  simp only [Judgements.ownMember?]
  split
  · cases promotedParameter? graph (owner.withNode element) name with
    | none => exact Or.inl fun _ => rfl
    | some type => exact Or.inr ⟨_, law.allows_pure type, fun _ => rfl⟩
  · split
    · exact Or.inl fun _ => rfl
    · split
      · split
        · exact Or.inr ⟨_, lawful.functionReturn _, fun _ => rfl⟩
        · exact Or.inr ⟨_, law.allows_pure _, fun _ => rfl⟩
      · exact Or.inr ⟨_, law.allows_pure _, fun _ => rfl⟩
      · exact Or.inr ⟨_, law.allows_pure _, fun _ => rfl⟩
      · split
        · exact Or.inr ⟨_, law.allows_pure _, fun _ => rfl⟩
        · exact Or.inr ⟨_, lawful.expression _, fun _ => rfl⟩
        · exact Or.inr ⟨_, law.allows_pure _, fun _ => rfl⟩
      · split
        · exact Or.inr ⟨_, law.allows_pure _, fun _ => rfl⟩
        · exact Or.inr ⟨_, lawful.expression _, fun _ => rfl⟩
        · exact Or.inr ⟨_, law.allows_pure _, fun _ => rfl⟩
      · exact Or.inl fun _ => rfl

theorem findOwnMember (lawful : Lawful law below) (graph : ModuleGraph) (owner : Site)
    (name : String) (isStatic : Bool) (elements : List Nat) :
    (∀ index, elements.findSome? ((below index).ownMember? graph owner name isStatic) = none) ∨
      ∃ answers : ι → Infer Ty, law.allows answers ∧
        ∀ index, elements.findSome? ((below index).ownMember? graph owner name isStatic) =
          some (answers index) := by
  induction elements with
  | nil => exact Or.inl fun _ => rfl
  | cons element rest inductionHypothesis =>
    rcases lawful.ownMember? graph owner name isStatic element with
      absent | ⟨answers, allowed, found⟩
    · simpa only [List.findSome?_cons, absent] using inductionHypothesis
    · exact Or.inr ⟨answers, allowed, fun index => by simp [found index]⟩

theorem memberOfClassStep (lawful : Lawful law below) (graph : ModuleGraph) (owner : Site)
    (name : String) (isStatic : Bool) :
    law.allows fun index => (below index).memberOfClassStep graph owner name isStatic := by
  simp only [Judgements.memberOfClassStep]
  rcases lawful.findOwnMember graph owner name isStatic
    ((((graph.document owner.module).tree.childWith? owner.node .body).map
      (graph.document owner.module).tree.namedChildren).getD []) with
    absent | ⟨answers, allowed, found⟩
  · simp only [absent]
    apply Law.allows_bind (lawful.parentClass? graph owner)
    intro parent
    cases parent with
    | none => exact law.allows_throw _
    | some parent => exact lawful.memberOfClass parent name isStatic
  · simpa only [found] using allowed

theorem allows_foundOrMissing (law : Law ι) (owner : Ty) (name : String) (found : Option Ty) :
    law.allows fun _ =>
      (match found with
        | some type => pure type
        | none => throw (.noSuchMember owner.describe name) : Infer Ty) := by
  cases found with
  | some type => exact law.allows_pure type
  | none => exact law.allows_throw _

theorem memberStep (lawful : Lawful law below) (graph : ModuleGraph) (levels : Nat) (owner : Ty)
    (name : String) : law.allows fun index => (below index).memberStep graph levels owner name := by
  simp only [Judgements.memberStep]
  split
  · exact allows_foundOrMissing law _ name _
  · exact allows_foundOrMissing law _ name _
  · exact allows_foundOrMissing law _ name _
  · exact allows_foundOrMissing law _ name _
  · refine Law.allows_bind (Law.allows_lift
      (Law.holds_successes (fun type => lawful.member type name) _)) fun found => ?_
    cases found with
    | nil => exact law.allows_throw _
    | cons => exact law.allows_pure _
  · exact lawful.memberOfClass _ name false
  · exact lawful.memberOfClass _ name true
  · exact Law.allows_bind (law.allows_ofExcept _) lawful.declaration
  · exact Law.allows_bind (law.allows_ofExcept _) fun type => lawful.member type name
  · exact law.allows_throw _
  · exact law.allows_throw _

theorem declarationStep (lawful : Lawful law below) (graph : ModuleGraph) (known : Declaration) :
    law.allows fun index => (below index).declarationStep graph known := by
  simp only [Judgements.declarationStep]
  split
  · split <;> exact law.allows_pure _
  · exact law.allows_pure _
  · split
    · exact law.allows_pure _
    · exact lawful.expression _
    · exact law.allows_pure _
  · exact law.allows_pure _
  · exact lawful.expression _
  · exact law.allows_throw _
  · exact law.allows_pure _
  · exact Law.allows_bind (law.allows_ofExcept _) lawful.declaration
  · exact Law.allows_bind (law.allows_ofExcept _) lawful.declaration
  · exact law.allows_pure _
  · exact law.allows_throw _
  · exact law.allows_throw _
  · exact law.allows_throw _

theorem nameType (lawful : Lawful law below) (graph : ModuleGraph) (name : String) (place : Site) :
    law.allows fun index => (below index).nameType graph name place :=
  Law.allows_bind (law.allows_ofExcept _) lawful.declaration

theorem elementMembers (lawful : Lawful law below) (graph : ModuleGraph) (levels : Nat)
    (element : Site) : law.holds fun index => (below index).elementMembers graph levels element := by
  simp only [Judgements.elementMembers]
  split
  · split
    · exact law.ofBind (Law.holds_orUnknown (lawful.expression _)) fun _ => law.ofPure _
    · exact law.ofPure _
  · exact law.ofBind (Law.holds_orUnknown (lawful.nameType graph _ _)) fun _ => law.ofPure _
  · split
    · exact law.ofPure _
    · split
      · exact law.ofBind (Law.holds_orUnknown (lawful.functionReturn _)) fun _ => law.ofPure _
      · exact law.ofPure _
  · split
    · exact law.ofPure _
    · apply law.ofBind (Law.holds_attempt (lawful.expression _))
      intro result
      cases result with
      | error => exact law.ofPure _
      | ok type =>
        dsimp only
        split <;> exact law.ofPure _
  · exact law.ofPure _

theorem membersOfLiteral (lawful : Lawful law below) (graph : ModuleGraph) (levels : Nat)
    (literal : Site) :
    law.holds fun index => (below index).membersOfLiteral graph levels literal :=
  law.ofBind (Law.holds_mapM fun _ _ => lawful.elementMembers graph levels _)
    fun _ => law.ofPure _

theorem partType (lawful : Lawful law below) (part? : Option Site) :
    law.holds fun index => (below index).partType part? := by
  cases part? with
  | none => exact law.ofPure _
  | some part => exact Law.holds_orUnknown (lawful.expression part)

theorem joinedParts (lawful : Lawful law below) (first? second? : Option Site) :
    law.allows fun index =>
      (do
        let first ← (below index).partType first?
        let second ← (below index).partType second?
        return .ofAlternatives [first, second] : Infer Ty) :=
  Law.allows_bind (Law.allows_lift (lawful.partType first?)) fun _ =>
    Law.allows_bind (Law.allows_lift (lawful.partType second?)) fun _ => law.allows_pure _

theorem decidingPart (lawful : Lawful law below) (place : Site) (inner? : Option Nat) :
    law.allows fun index =>
      (match inner? with
        | some inner => (below index).expression (place.withNode inner)
        | none => pure .unknown : Infer Ty) := by
  cases inner? with
  | none => exact law.allows_pure _
  | some inner => exact lawful.expression _

theorem expressionStep (lawful : Lawful law below) (graph : ModuleGraph) (levels : Nat)
    (place : Site) : law.allows fun index => (below index).expressionStep graph levels place := by
  simp only [Judgements.expressionStep]
  cases (graph.document place.module).tree.kind place.node with
  | parenthesized | nonNull | sequenceExpression | satisfiesExpression | assignment =>
    exact lawful.decidingPart place _
  | asExpression | typeAssertion | thisReference =>
    dsimp only
    split <;> exact law.allows_pure _
  | identifier =>
    dsimp only
    split
    · exact law.allows_pure _
    · exact lawful.nameType graph _ place
  | newExpression =>
    dsimp only
    split
    · exact law.allows_throw _
    · apply Law.allows_bind (lawful.expression _)
      intro type
      split <;> exact law.allows_pure _
  | callExpression => exact lawful.callReturn graph place
  | awaitExpression =>
    exact Law.allows_bind (Law.allows_lift (lawful.partType _)) fun inner =>
      Law.allows_lift (lawful.awaited inner)
  | memberExpression =>
    dsimp only
    split
    · exact Law.allows_bind (lawful.expression _) fun owner => lawful.member owner _
    · exact law.allows_throw _
  | objectLiteral =>
    exact Law.allows_bind (Law.allows_lift (lawful.membersOfLiteral graph levels place))
      fun _ => law.allows_pure _
  | ternaryExpression => exact lawful.joinedParts _ _
  | binaryExpression =>
    dsimp only
    split
    · exact lawful.joinedParts _ _
    · exact lawful.joinedParts _ _
    · exact lawful.joinedParts _ _
    · exact law.allows_pure _
  | classExpression | stringLiteral | templateString | numberLiteral | trueLiteral | falseLiteral
  | nullLiteral | arrayLiteral => exact law.allows_pure _
  | _ =>
    dsimp only
    split <;> exact law.allows_pure _

theorem signatureStep (lawful : Lawful law below) (graph : ModuleGraph) (levels : Nat)
    (callee : Ty) : law.allows fun index => (below index).signatureStep graph levels callee := by
  simp only [Judgements.signatureStep]
  split
  · exact law.allows_pure _
  · exact lawful.functionReturn _
  · exact law.allows_pure _
  · exact Law.allows_bind (law.allows_ofExcept _) lawful.signature
  · refine Law.allows_bind (Law.allows_lift (Law.holds_successes lawful.signature _))
      fun found => ?_
    cases found with
    | nil => exact law.allows_throw _
    | cons => exact law.allows_pure _
  · exact law.allows_throw _
  · exact law.allows_throw _

theorem callableContinuation (lawful : Lawful law below) (graph : ModuleGraph) (levels : Nat)
    (type : Ty) : law.holds fun index =>
      (do
        match ← ((below index).member type "then").attempt with
        | .ok continuation => pure (graph.canBeCalled levels continuation)
        | .error _ => pure false : Inquiry Bool) := by
  apply law.ofBind (Law.holds_attempt (lawful.member type "then"))
  intro result
  cases result <;> exact law.ofPure _

theorem thenableStep (lawful : Lawful law below) (graph : ModuleGraph) (levels : Nat) (type : Ty) :
    law.holds fun index => (below index).thenableStep graph levels type := by
  simp only [Judgements.thenableStep]
  split
  · exact law.ofPure _
  · exact Law.holds_anyOf lawful.thenable _
  · split
    · exact lawful.thenable _
    · exact law.ofPure _
  · exact lawful.callableContinuation graph levels _
  · exact lawful.callableContinuation graph levels _
  · exact law.ofPure _

theorem bodyReturnStep (lawful : Lawful law below) (graph : ModuleGraph) (function : Site) :
    law.allows fun index => (below index).bodyReturnStep graph function := by
  simp only [Judgements.bodyReturnStep]
  split
  · exact law.allows_pure _
  · split
    · exact law.allows_pure _
    · refine Law.allows_bind (Law.allows_mapM fun _ _ =>
        Law.allows_lift (Law.holds_orUnknown (lawful.expression _))) fun _ => ?_
      split
      · exact Law.allows_bind (Law.allows_lift (lawful.awaited _)) fun _ => law.allows_pure _
      · exact law.allows_pure _

end Lawful

theorem Lawful.congr {ι : Type} {law : Law ι} {judgements other : ι → Judgements}
    (lawful : Lawful law judgements) (same : ∀ index, judgements index = other index) :
    Lawful law other := by
  rwa [← funext same]

theorem lawful_exhausted_of {ι : Type} {law : Law ι} {graph : ModuleGraph} {manners : ι → Manner}
    (read : ∀ function,
      law.allows fun index => (manners index).read (fun _ => throw .tooDeep) function)
    (await : ∀ type,
      law.holds fun index => (manners index).await graph 0 (fun _ => pure false) type) :
    Lawful law fun index => exhausted (manners index) graph where
  expression := fun _ => law.allows_throw _
  declaration := fun _ => law.allows_throw _
  member := fun _ _ => law.allows_throw _
  memberOfClass := fun _ _ _ => law.allows_throw _
  signature := fun _ => law.allows_throw _
  functionReturn := read
  thenable := fun _ => law.ofPure false
  awaited := await

/-- The answers with one level more keep a law that the answers below keep, if the reading of
functions and the awaiting of types do. -/
theorem lawful_step_of {ι : Type} {law : Law ι} {graph : ModuleGraph} {manners : ι → Manner}
    {below : ι → Judgements} {levels : Nat} (held : Lawful law below)
    (read : ∀ function, law.allows fun index =>
      (manners index).read ((below index).bodyReturnStep graph) function)
    (await : ∀ type, law.holds fun index =>
      (manners index).await graph (levels + 1) ((below index).thenableStep graph levels) type) :
    Lawful law fun index => step (manners index) graph levels (below index) where
  expression := held.expressionStep graph levels
  declaration := held.declarationStep graph
  member := held.memberStep graph levels
  memberOfClass := held.memberOfClassStep graph
  signature := held.signatureStep graph levels
  functionReturn := read
  thenable := held.thenableStep graph levels
  awaited := await

theorem lawful_exhausted {ι : Type} {law : Law ι} {graph : ModuleGraph} {manners : ι → Manner}
    (lawful : Manner.Lawful law graph manners) :
    Lawful law fun index => exhausted (manners index) graph :=
  lawful_exhausted_of (lawful.read _ fun _ => law.allows_throw _)
    (lawful.await 0 _ fun _ => law.ofPure false)

theorem lawful_step {ι : Type} {law : Law ι} {graph : ModuleGraph} {manners : ι → Manner}
    (lawful : Manner.Lawful law graph manners) {below : ι → Judgements}
    (held : Lawful law below) (levels : Nat) :
    Lawful law fun index => step (manners index) graph levels (below index) :=
  lawful_step_of held (lawful.read _ (held.bodyReturnStep graph))
    (lawful.await (levels + 1) _ (held.thenableStep graph levels))

/-- A law of how functions are read and of how types are awaited is a law of inference. -/
theorem lawful_withLevels {ι : Type} {law : Law ι} {graph : ModuleGraph} {manners : ι → Manner}
    (lawful : Manner.Lawful law graph manners) (levels : Nat) :
    Lawful law fun index => withLevels (manners index) graph levels := by
  induction levels with
  | zero => exact lawful_exhausted lawful
  | succ levels inductionHypothesis => exact lawful_step lawful inductionHypothesis levels

theorem Lawful.yields {ι : Type} {law : Law ι} {judgements : ι → Judgements}
    (lawful : Lawful law judgements) (graph : ModuleGraph) (candidate : Candidate) :
    law.allows fun index => (judgements index).yields graph candidate := by
  simp only [Judgements.yields]
  split
  · exact Law.allows_bind (lawful.functionReturn _) fun type => Law.allows_lift (lawful.thenable type)
  · exact Law.allows_bind (lawful.callReturn graph _) fun type => Law.allows_lift (lawful.thenable type)

theorem Lawful.answer {ι : Type} {law : Law ι} {judgements : ι → Judgements}
    (lawful : Lawful law judgements) (graph : ModuleGraph) (candidate : Candidate) :
    law.holds fun index => (judgements index).answer graph candidate := by
  apply law.ofBind (Law.holds_attempt (lawful.yields graph candidate))
  intro result
  cases result <;> exact law.ofPure _

theorem lawful_answer {ι : Type} {law : Law ι} {graph : ModuleGraph} {manners : ι → Manner}
    (lawful : Manner.Lawful law graph manners) (levels : Nat) (candidate : Candidate) :
    law.holds fun index => (withLevels (manners index) graph levels).answer graph candidate :=
  (lawful_withLevels lawful levels).answer graph candidate

section

variable {manner : Manner} {graph : ModuleGraph} {levels : Nat} {place : Site}

theorem expression_of_identifier {name : String} {known : Declaration}
    (kind : (graph.tree place.module).kind place.node = .identifier)
    (text : graph.textOf place = name) (defined : name ≠ "undefined")
    (found : graph.valueNamed name place = .ok known) :
    (withLevels manner graph (levels + 1)).expression place =
      (withLevels manner graph levels).declaration known := by
  have own : (graph.document place.module).tree.kind place.node = .identifier := kind
  have ownText : (graph.document place.module).textOf place.node = name := text
  show expressionStep _ graph levels place = _
  simp only [expressionStep, own, ownText, defined, ↓reduceIte, nameType, found]
  rfl

theorem declaration_of_function
    (declared : (graph.tree place.module).kind place.node ≠ .functionSignature) :
    (withLevels manner graph (levels + 1)).declaration (.function place) =
      pure (.inferred place) := by
  show (withLevels manner graph levels).declarationStep graph (.function place) = _
  simp only [declarationStep, declared, ↓reduceIte]

theorem callReturn_of_function {judgements : Judgements} {callee : Nat} {function : Site}
    (called : (graph.tree place.module).childWith? place.node .callee = some callee)
    (word : (graph.tree place.module).kind callee ≠ .importWord)
    (known : judgements.expression (place.withNode callee) = pure (.inferred function)) :
    judgements.callReturn graph place = judgements.signature (.inferred function) := by
  simp only [callReturn, called, word, ↓reduceIte, known, pure_bind]

theorem signature_of_inferred {function : Site} :
    (withLevels manner graph (levels + 2)).signature (.inferred function) =
      manner.read ((withLevels manner graph levels).bodyReturnStep graph) function :=
  rfl

end

end Judgements

end PromiseDetection

import PromiseDetection.Code.Candidate
import PromiseDetection.Code.Returns
import PromiseDetection.Typing.Named
import PromiseDetection.Typing.Session

/-!
Type inference on demand.

What can be asked about a module graph is collected in `Judgements`. Every answer that needs other
answers takes them from the judgements with one level less, and the judgements without levels give
up on everything. So an inference with a given number of levels is nested at most that deep.

Only awaiting a type may follow aliases without using up levels. It is given a patience instead, and
a computation that loses it has no outcome.
-/

namespace PromiseDetection

/-- The questions of inference, as they are answered with some number of levels left. -/
structure Judgements where
  expression : Site → Infer Ty
  /-- The type of what a name of a value refers to. -/
  declaration : Declaration → Infer Ty
  /-- The type of a member of a type. -/
  member : Ty → String → Infer Ty
  /-- The type of an instance member or, if the flag is set, a static member of a class. -/
  memberOfClass : Site → String → Bool → Infer Ty
  /-- The type that calling a type gives. -/
  signature : Ty → Infer Ty
  functionReturn : Site → Infer Ty
  /-- Is a type a promise, or does it have a callable member `then`? -/
  thenable : Ty → Inquiry Bool
  /-- What awaiting a value of a type gives. -/
  awaited : Ty → Inquiry Ty

/-- The part of inference that is not bound by levels alone: how it keeps the functions that it
reads, and how it awaits a type with a number of levels, given what is thenable. -/
structure Manner where
  read : (Site → Infer Ty) → Site → Infer Ty
  await : ModuleGraph → Nat → (Ty → Inquiry Bool) → Ty → Inquiry Ty

namespace Judgements

def exhausted (manner : Manner) (graph : ModuleGraph) : Judgements where
  expression := fun _ => throw .tooDeep
  declaration := fun _ => throw .tooDeep
  member := fun _ _ => throw .tooDeep
  memberOfClass := fun _ _ _ => throw .tooDeep
  signature := fun _ => throw .tooDeep
  functionReturn := manner.read fun _ => throw .tooDeep
  thenable := fun _ => pure false
  awaited := manner.await graph 0 fun _ => pure false

/-- The type of a call. A call of the word `import` gives a promise. -/
def callReturn (below : Judgements) (graph : ModuleGraph) (call : Site) : Infer Ty := do
  let tree := graph.tree call.module
  match tree.childWith? call.node .callee with
  | none => throw (.notCallable "call")
  | some callee =>
    if tree.kind callee = .importWord then pure (.promise .unknown)
    else below.signature (← below.expression (call.withNode callee))

def parentClass? (below : Judgements) (graph : ModuleGraph) (owner : Site) :
    Infer (Option Site) := do
  let tree := graph.tree owner.module
  let extended :=
    ((tree.childOfKind? owner.node .classHeritage).bind fun heritage =>
      tree.childOfKind? heritage .extendsClause).bind fun clause => tree.childWith? clause .value
  match extended with
  | none => pure none
  | some value =>
    match ← below.expression (owner.withNode value) with
    | .classValue parent => pure (some parent)
    | _ => pure none

/-- The type of the member that a constructor declares by a parameter with a modifier. -/
def promotedParameter? (graph : ModuleGraph) (constructed : Site) (name : String) : Option Ty :=
  let document := graph.document constructed.module
  let tree := document.tree
  ((tree.childWith? constructed.node .parameters).bind fun parameters =>
    (tree.namedChildren parameters).find? fun parameter =>
      ((tree.childOfKind? parameter .accessibilityModifier).isSome ||
          (tree.childOfKind? parameter .readonlyWord).isSome) &&
        (tree.childWith? parameter .pattern).any fun pattern =>
          document.textOf pattern == name).map
    fun parameter => document.writtenTypeIn constructed.module parameter .declaredType

def ownMember? (below : Judgements) (graph : ModuleGraph) (owner : Site) (name : String)
    (isStatic : Bool) (element : Nat) : Option (Infer Ty) :=
  let document := graph.document owner.module
  let tree := document.tree
  let key? := document.keyIn? element .name
  let place := owner.withNode element
  if !isStatic && tree.kind element = .methodDefinition && key? = some "constructor" then
    (promotedParameter? graph place name).map pure
  else if key? ≠ some name ∨ (tree.childOfKind? element .staticWord).isSome ≠ isStatic then none
  else
    match tree.kind element with
    | .methodDefinition =>
      if (tree.childOfKind? element .getWord).isSome then some (below.functionReturn place)
      else some (pure (.inferred place))
    | .methodSignature | .abstractMethodSignature =>
      some (pure (.returning (document.writtenTypeIn owner.module element .returnType)))
    | .publicFieldDefinition | .fieldDefinition =>
      match tree.childWith? element .declaredType, tree.childWith? element .value with
      | some written, _ => some (pure (document.writtenType owner.module written))
      | none, some value => some (below.expression (owner.withNode value))
      | none, none => some (pure .unknown)
    | _ => none

def memberOfClassStep (below : Judgements) (graph : ModuleGraph) (owner : Site) (name : String)
    (isStatic : Bool) : Infer Ty := do
  let document := graph.document owner.module
  let tree := document.tree
  let elements := ((tree.childWith? owner.node .body).map tree.namedChildren).getD []
  match elements.findSome? (below.ownMember? graph owner name isStatic) with
  | some answer => answer
  | none =>
    match ← below.parentClass? graph owner with
    | some parent => below.memberOfClass parent name isStatic
    | none => throw (.noSuchMember ((document.nameOfClass? owner.node).getD "class") name)

def promising : Ty := .returning (.promise .unknown)

def promiseMember? (inner : Ty) : String → Option Ty
  | "finally" => some (.returning (.promise inner))
  | "then" | "catch" => some promising
  | _ => none

def constructorMember? : String → Option Ty
  | "withResolvers" =>
    some (.returning (.object
      [("promise", .promise .unknown), ("resolve", .returning (.primitive .void)),
        ("reject", .returning (.primitive .void))]))
  | "resolve" | "reject" | "all" | "allSettled" | "race" | "any" => some promising
  | _ => none

def responseMember? : String → Option Ty
  | "clone" => some (.returning (.builtin .response))
  | "ok" | "redirected" | "bodyUsed" => some (.primitive .boolean)
  | "status" => some (.primitive .number)
  | "statusText" | "url" => some (.primitive .string)
  | "headers" | "body" => some .unknown
  | "json" | "text" | "blob" | "arrayBuffer" | "formData" | "bytes" => some promising
  | _ => none

def memberStep (below : Judgements) (graph : ModuleGraph) (levels : Nat) (owner : Ty)
    (name : String) : Infer Ty :=
  let orMissing (found : Option Ty) : Infer Ty :=
    match found with
    | some type => pure type
    | none => throw (.noSuchMember owner.describe name)
  match owner with
  | .promise inner => orMissing (promiseMember? inner name)
  | .builtin .promiseConstructor => orMissing (constructorMember? name)
  | .builtin .response => orMissing (responseMember? name)
  | .object members => orMissing (members.lookup name)
  | .union alternatives => do
    match ← Infer.successes (below.member · name) alternatives with
    | [] => throw (.noSuchMember owner.describe name)
    | found => pure (.ofAlternatives found)
  | .instanceOf place => below.memberOfClass place name false
  | .classValue place => below.memberOfClass place name true
  | .wholeModule module => do
    below.declaration (← Infer.ofExcept (graph.exportedValue module name))
  | .named _ _ => do
    below.member (← Infer.ofExcept (graph.lookThrough levels owner)) name
  | .unknown => throw (.typeNotKnown name)
  | _ => throw (.noSuchMember owner.describe name)

def declarationStep (below : Judgements) (graph : ModuleGraph) (declaration : Declaration) :
    Infer Ty :=
  match declaration with
  | .function place =>
    if (graph.tree place.module).kind place.node = .functionSignature then
      pure (.returning
        ((graph.document place.module).writtenTypeIn place.module place.node .returnType))
    else pure (.inferred place)
  | .classLike place => pure (.classValue place)
  | .variable place =>
    let tree := graph.tree place.module
    match tree.childWith? place.node .declaredType, tree.childWith? place.node .value with
    | some written, _ => pure (graph.writtenType (place.withNode written))
    | none, some value => below.expression (place.withNode value)
    | none, none => pure .unknown
  | .parameter place =>
    pure ((graph.document place.module).writtenTypeIn place.module place.node .declaredType)
  | .expression place => below.expression place
  | .imported none specifier _ => throw (.noSuchModule specifier)
  | .imported (some module) _ .wholeModule => pure (.wholeModule module)
  | .imported (some module) _ (.named exported) => do
    below.declaration (← Infer.ofExcept (graph.exportedValue module exported))
  | .imported (some module) _ .defaultExport => do
    below.declaration (← Infer.ofExcept (graph.exportedValue module "default"))
  | .builtin known => pure (.builtin known)
  | .interface _ | .alias _ | .typeParameter => throw (.noSuchValue "type")

def nameType (below : Judgements) (graph : ModuleGraph) (name : String) (place : Site) :
    Infer Ty := do
  below.declaration (← Infer.ofExcept (graph.valueNamed name place))

def elementMembers (below : Judgements) (graph : ModuleGraph) (levels : Nat) (element : Site) :
    Inquiry (List (String × Ty)) := do
  let document := graph.document element.module
  let tree := document.tree
  match tree.kind element.node with
  | .pair =>
    match document.keyIn? element.node .key, tree.childWith? element.node .value with
    | some key, some value =>
      return [(key, ← (below.expression (element.withNode value)).orUnknown)]
    | _, _ => return []
  | .shorthandProperty =>
    let name := document.textOf element.node
    return [(name, ← (below.nameType graph name element).orUnknown)]
  | .methodDefinition =>
    match document.keyIn? element.node .name with
    | none => return []
    | some key =>
      if (tree.childOfKind? element.node .getWord).isSome then
        return [(key, ← (below.functionReturn element).orUnknown)]
      else return [(key, .inferred element)]
  | .spreadElement =>
    match tree.firstOperand? element.node with
    | none => return []
    | some inner =>
      match ← (below.expression (element.withNode inner)).attempt with
      | .error _ => return []
      | .ok type =>
        match graph.lookThrough levels type with
        | .ok (.object members) => return members
        | _ => return []
  | _ => return []

/-- The members of an object literal in the order written. A member whose type cannot be inferred is
still there. -/
def membersOfLiteral (below : Judgements) (graph : ModuleGraph) (levels : Nat) (literal : Site) :
    Inquiry (List (String × Ty)) := do
  let elements := (graph.tree literal.module).namedChildren literal.node
  return (← elements.mapM fun element =>
    below.elementMembers graph levels (literal.withNode element)).flatten

/-- The type of an optional part of an expression, unknown where it is missing or fails. -/
def partType (below : Judgements) (part? : Option Site) : Inquiry Ty :=
  match part? with
  | some part => (below.expression part).orUnknown
  | none => pure .unknown

def expressionStep (below : Judgements) (graph : ModuleGraph) (levels : Nat) (place : Site) :
    Infer Ty := do
  let document := graph.document place.module
  let tree := document.tree
  let node := place.node
  let part? (role : Field) : Option Site := (tree.childWith? node role).map place.withNode
  let wholeOf (inner? : Option Nat) : Infer Ty :=
    match inner? with
    | some inner => below.expression (place.withNode inner)
    | none => pure .unknown
  match tree.kind node with
  | .parenthesized | .nonNull | .sequenceExpression =>
    wholeOf ((tree.namedChildren node).filter fun child => tree.kind child ≠ .comment).getLast?
  | .asExpression =>
    match (tree.namedChildren node).getLast? with
    | some written => pure (graph.writtenType (place.withNode written))
    | none => pure .unknown
  | .satisfiesExpression => wholeOf (tree.firstOperand? node)
  | .typeAssertion =>
    match (tree.childOfKind? node .typeArguments).bind tree.firstOperand? with
    | some written => pure (graph.writtenType (place.withNode written))
    | none => pure .unknown
  | .identifier =>
    let name := document.textOf node
    if name = "undefined" then pure (.primitive .undefined) else below.nameType graph name place
  | .thisReference =>
    match tree.thisClass? node with
    | some owner => pure (.instanceOf (place.withNode owner))
    | none => pure .unknown
  | .newExpression =>
    match part? .constructed with
    | none => throw (.notCallable "new")
    | some constructed =>
      match ← below.expression constructed with
      | .classValue owner => pure (.instanceOf owner)
      | .builtin .promiseConstructor => pure (.promise .unknown)
      | _ => pure .unknown
  | .callExpression => below.callReturn graph place
  | .awaitExpression => do
    let inner ← below.partType ((tree.firstOperand? node).map place.withNode)
    below.awaited inner
  | .memberExpression =>
    match part? .object, part? .property with
    | some object, some property => do
      below.member (← below.expression object) (graph.textOf property)
    | _, _ => throw (.typeNotKnown "member")
  | .objectLiteral => return .object (← below.membersOfLiteral graph levels place)
  | .classExpression => pure (.classValue place)
  | .ternaryExpression => do
    let consequence ← below.partType (part? .consequence)
    let alternative ← below.partType (part? .alternative)
    return .ofAlternatives [consequence, alternative]
  | .binaryExpression =>
    match (tree.childWith? node .operator).map tree.kind with
    | some .logicalAnd | some .logicalOr | some .nullish => do
      let left ← below.partType (part? .left)
      let right ← below.partType (part? .right)
      return .ofAlternatives [left, right]
    | _ => pure (.primitive .computed)
  | .assignment => wholeOf (tree.childWith? node .right)
  | .stringLiteral | .templateString => pure (.primitive .string)
  | .numberLiteral => pure (.primitive .number)
  | .trueLiteral | .falseLiteral => pure (.primitive .boolean)
  | .nullLiteral => pure (.primitive .null)
  | .arrayLiteral => pure (.primitive .array)
  | _ => if tree.isFunction node then pure (.inferred place) else pure .unknown

def signatureStep (below : Judgements) (graph : ModuleGraph) (levels : Nat) (callee : Ty) :
    Infer Ty :=
  match callee with
  | .returning result => pure result
  | .inferred function => below.functionReturn function
  | .builtin .fetch => pure (.promise (.builtin .response))
  | .named _ _ => do
    below.signature (← Infer.ofExcept (graph.lookThrough levels callee))
  | .union alternatives => do
    match ← Infer.successes below.signature alternatives with
    | [] => throw (.notCallable callee.describe)
    | results => pure (.ofAlternatives results)
  | .unknown => throw (.typeNotKnown "callee")
  | other => throw (.notCallable other.describe)

def thenableStep (below : Judgements) (graph : ModuleGraph) (levels : Nat) (type : Ty) :
    Inquiry Bool :=
  match type with
  | .promise _ => pure true
  | .union alternatives => Inquiry.anyOf below.thenable alternatives
  | .named _ _ =>
    match graph.lookThrough levels type with
    | .ok expanded => below.thenable expanded
    | .error _ => pure false
  | .object _ | .instanceOf _ => do
    match ← (below.member type "then").attempt with
    | .ok continuation => pure (graph.canBeCalled levels continuation)
    | .error _ => pure false
  | _ => pure false

def bodyReturnStep (below : Judgements) (graph : ModuleGraph) (function : Site) : Infer Ty := do
  let tree := graph.tree function.module
  let isAsync := tree.isAsync function.node
  match tree.childWith? function.node .returnType with
  | some written => pure (graph.writtenType (function.withNode written))
  | none =>
    if tree.isGenerator function.node then
      pure (.primitive (if isAsync then .asyncGenerator else .generator))
    else do
      let returned ← (tree.returnedValues function.node).mapM fun value =>
        (below.expression (function.withNode value)).orUnknown
      let type := Ty.ofAlternatives returned
      if isAsync then return .promise (← below.awaited type)
      else pure type

/-- The judgements with one level more than `below`, which has `levels` levels. -/
def step (manner : Manner) (graph : ModuleGraph) (levels : Nat) (below : Judgements) :
    Judgements where
  expression := below.expressionStep graph levels
  declaration := below.declarationStep graph
  member := below.memberStep graph levels
  memberOfClass := below.memberOfClassStep graph
  signature := below.signatureStep graph levels
  functionReturn := manner.read (below.bodyReturnStep graph)
  thenable := below.thenableStep graph levels
  awaited := manner.await graph (levels + 1) (below.thenableStep graph levels)

def withLevels (manner : Manner) (graph : ModuleGraph) : Nat → Judgements
  | 0 => exhausted manner graph
  | levels + 1 => step manner graph levels (withLevels manner graph levels)

def yields (judgements : Judgements) (graph : ModuleGraph) (candidate : Candidate) :
    Infer Bool := do
  let place : Site := { node := candidate.node, module := 0 }
  let type ←
    match candidate.kind with
    | .function => judgements.functionReturn place
    | .call => judgements.callReturn graph place
  judgements.thenable type

/-- The answer about a function or a call. Where inference fails it is negative. -/
def answer (judgements : Judgements) (graph : ModuleGraph) (candidate : Candidate) :
    Inquiry Bool := do
  match ← (judgements.yields graph candidate).attempt with
  | .ok verdict => pure verdict
  | .error _ => pure false

end Judgements

/-- What awaiting a value of a type gives. Each alias and each union takes up patience. -/
def awaited (patience : Nat) (graph : ModuleGraph) (levels : Nat) (thenable : Ty → Inquiry Bool)
    (type : Ty) : Inquiry Ty :=
  match patience with
  | 0 => .endless
  | patience + 1 =>
    match type with
    | .promise inner => pure inner
    | .union alternatives => do
      return .ofAlternatives
        (← alternatives.mapM (awaited patience graph levels thenable))
    | .named _ _ =>
      match graph.lookThrough levels type with
      | .ok expanded => awaited patience graph levels thenable expanded
      | .error _ => pure .unknown
    | other => do
      if ← thenable other then pure .unknown else pure other

/-- Awaiting with some patience more than the unions take up that a type is made of. -/
def awaitedBeyond (patience : Nat) (graph : ModuleGraph) (levels : Nat)
    (thenable : Ty → Inquiry Bool) (type : Ty) : Inquiry Ty :=
  awaited (patience + type.unionDepth) graph levels thenable type

structure Inference where
  graph : ModuleGraph
  /-- The number of levels a judgement may be nested. -/
  levels : Nat
  /-- The number of aliases, and of unions behind them, that awaiting a type may look through. -/
  patience : Nat

namespace Inference

def standardLevels : Nat := 32

def nodeCount (graph : ModuleGraph) : Nat :=
  (List.range graph.size).foldl (fun count module => count + (graph.tree module).size) 0

/-- Inference on a graph with the usual limits. A way through written unions passes no union twice
unless it never ends, so the patience is enough for every type that can be awaited at all. -/
def onGraph (graph : ModuleGraph) : Inference where
  graph
  levels := standardLevels
  patience := 4 * nodeCount graph + 4

def manner (inference : Inference) : Manner where
  read := Infer.remembered
  await := awaitedBeyond inference.patience

def judgements (inference : Inference) : Judgements :=
  .withLevels inference.manner inference.graph inference.levels

def typeOf (inference : Inference) (place : Site) : Infer Ty :=
  inference.judgements.expression place

def typeOfMember (inference : Inference) (owner : Ty) (name : String) : Infer Ty :=
  inference.judgements.member owner name

def callResult (inference : Inference) (call : Site) : Infer Ty :=
  inference.judgements.callReturn inference.graph call

def functionResult (inference : Inference) (function : Site) : Infer Ty :=
  inference.judgements.functionReturn function

def isThenable (inference : Inference) (type : Ty) : Inquiry Bool :=
  inference.judgements.thenable type

def answer (inference : Inference) (candidate : Candidate) : Inquiry Bool :=
  inference.judgements.answer inference.graph candidate

/-- The semantic verdict on a candidate of module 0. An `async` function is not inferred. -/
def candidateVerdict (inference : Inference) (candidate : Candidate) : Inquiry Bool :=
  match candidate.kind with
  | .function =>
    if (inference.graph.tree 0).isAsync candidate.node then pure true
    else inference.answer candidate
  | .call => inference.answer candidate

end Inference

end PromiseDetection

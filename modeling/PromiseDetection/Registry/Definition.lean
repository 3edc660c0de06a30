import PromiseDetection.Code.Binding
import PromiseDetection.Heuristic.Judgement
import PromiseDetection.Tree.Walk

/-!
Definitions: the places of a document that can add an entry to the registry.

Each definition knows the entry it would register, what decides about it, and which entries could
change that decision once they are registered.
-/

namespace PromiseDetection

/-- What decides whether a definition produces promises. -/
inductive Ground where
  /-- The function at this node. -/
  | function (node : Nat)
  /-- Another function, by its name. -/
  | alias (name : String)
  deriving DecidableEq, Repr

/-- A place that registers `target` once its ground is judged positive. -/
structure Definition where
  target : Entry
  ground : Ground
  deriving DecidableEq, Repr

namespace Document

/-- The identifier and the value of a variable declaration or of an assignment to a variable. -/
def variableAndValue? (document : Document) (position : Nat) : Option (Nat × Nat) := do
  let tree := document.tree
  let (target, value) ←
    match tree.kind position with
    | .variableDeclarator => do
      let target ← tree.childWith? position .name
      let value ← tree.childWith? position .value
      some (target, value)
    | .assignment => do
      let target ← tree.childWith? position .left
      let value ← tree.childWith? position .right
      some (target, value)
    | _ => none
  if tree.kind target = .identifier then some (target, value) else none

def instanceBinding? (document : Document) (position : Nat) : Option (String × String) := do
  let tree := document.tree
  let (target, assigned) ← document.variableAndValue? position
  let value := tree.unwrap assigned
  if tree.kind value = .newExpression then
    let constructed ← tree.childWith? value .constructed
    if tree.kind constructed = .identifier then
      some (document.textOf target, document.textOf constructed)
    else none
  else none

/-- The name of the class whose body directly contains a member. -/
def classAround? (document : Document) (member : Nat) : Option String := do
  let body ← document.tree.parent? member
  if document.tree.kind body = .classBody then
    (document.tree.thisClass? member).bind document.nameOfClass?
  else none

/-- The entry under which a function would be registered. A method of an object literal has none
of its own, since its object registers it. -/
def entryOfFunction? (document : Document) (function : Nat) : Option Entry :=
  let tree := document.tree
  match tree.kind function with
  | .functionDeclaration | .generatorDeclaration =>
    (tree.childWith? function .name).map fun name => .function (document.textOf name)
  | .methodDefinition => do
    let owner ← document.classAround? function
    let method ← document.keyIn? function .name
    some (.method owner method)
  | _ => do
    let binding ← tree.binder? function
    let name ← binding.name?
    match binding.kind with
    | .variable => some (.function (document.textOf name))
    | .field => do
      let owner ← document.classAround? binding.node
      let method ← document.writtenKey? name
      some (.method owner method)
    | .property | .member => none

/-- The definition that one element of an object literal makes, if it may produce promises. -/
def memberDefinition? (document : Document) (object : String) (element : Nat) :
    Option Definition :=
  let tree := document.tree
  match tree.kind element with
  | .shorthandProperty =>
    let name := document.textOf element
    some { target := .member object name, ground := .alias name }
  | .pair => do
    let key ← tree.childWith? element .key
    let assigned ← tree.childWith? element .value
    let member ← document.writtenKey? key
    let value := tree.unwrap assigned
    if tree.kind value = .identifier then
      some { target := .member object member, ground := .alias (document.textOf value) }
    else if tree.isFunction value then
      some { target := .member object member, ground := .function value }
    else none
  | .methodDefinition => do
    let member ← document.keyIn? element .name
    some { target := .member object member, ground := .function element }
  | _ => none

def definitionsOfNode (document : Document) (position : Nat) : List Definition :=
  let tree := document.tree
  if tree.isFunction position then
    (document.entryOfFunction? position).toList.map fun target =>
      { target, ground := .function position }
  else
    match document.variableAndValue? position with
    | none => []
    | some (target, assigned) =>
      let value := tree.unwrap assigned
      if tree.kind value = .objectLiteral then
        (tree.namedChildren value).filterMap
          (document.memberDefinition? (document.textOf target))
      else []

def callDependencies (document : Document) (registry : Registry) (call : Nat) : List Entry :=
  let tree := document.tree
  match tree.childWith? call .callee with
  | none => []
  | some callee =>
    match tree.kind callee with
    | .identifier => [.function (document.textOf callee)]
    | .memberExpression =>
      match tree.childWith? callee .object, tree.childWith? callee .property with
      | some receiver, some property =>
        let member := document.textOf property
        match tree.kind receiver with
        | .identifier =>
          let object := document.textOf receiver
          [.method object member, .member object member] ++
            (registry.classOfInstance? object).toList.map fun owner => .method owner member
        | .thisReference =>
          ((tree.thisClass? call).bind document.nameOfClass?).toList.map fun owner =>
            .method owner member
        | _ => []
      | _, _ => []
    | _ => []

end Document

namespace Definition

/-- Does the ground of a definition produce promises, as far as the registry tells? -/
def isPositive (document : Document) (registry : Registry) (definition : Definition) : Bool :=
  match definition.ground with
  | .function node => document.functionVerdict registry node
  | .alias name => registry.hasFunction name

/-- The entries whose registration can turn a definition positive. -/
def dependencies (document : Document) (registry : Registry) (definition : Definition) :
    List Entry :=
  match definition.ground with
  | .function node =>
    (((document.tree.returnedValues node).map document.tree.unwrap).filter fun value =>
      document.tree.kind value = .callExpression).flatMap (document.callDependencies registry)
  | .alias name => [.function name]

end Definition

end PromiseDetection

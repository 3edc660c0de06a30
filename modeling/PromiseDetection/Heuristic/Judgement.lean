import PromiseDetection.Code.Candidate
import PromiseDetection.Code.Document
import PromiseDetection.Code.Returns
import PromiseDetection.Registry.Basic

/-!
The heuristic judgement: which functions and calls produce promises as far as syntax and the
registry tell.

A function is judged by its `async` marker, its declared return type and the values it returns. A
call is judged by the name it calls. Comments and the contents of strings play no part.
-/

namespace PromiseDetection.Document

def declaresPromise (document : Document) (function : Nat) : Bool :=
  let tree := document.tree
  match (tree.childWith? function .returnType).bind tree.firstOperand? with
  | none => false
  | some declared =>
    match tree.kind declared with
    | .typeIdentifier => document.textOf declared == "Promise"
    | .genericType =>
      match tree.childWith? declared .name with
      | some name => document.textOf name == "Promise"
      | none => false
    | _ => false

/-- Is the call to `fetch`, to a member of `Promise`, or to a registered name? -/
def callVerdict (document : Document) (registry : Registry) (call : Nat) : Bool :=
  let tree := document.tree
  match tree.childWith? call .callee with
  | none => false
  | some callee =>
    match tree.kind callee with
    | .identifier =>
      let name := document.textOf callee
      name == "fetch" || registry.hasFunction name
    | .memberExpression =>
      match tree.childWith? callee .object, tree.childWith? callee .property with
      | some receiver, some property =>
        let member := document.textOf property
        match tree.kind receiver with
        | .identifier =>
          let object := document.textOf receiver
          object == "Promise" ||
            ((registry.classOfReceiver? object).any fun owner =>
              registry.hasMethod owner member) ||
            registry.hasMember object member
        | .thisReference =>
          ((tree.thisClass? call).bind document.nameOfClass?).any fun owner =>
            registry.hasMethod owner member
        | _ => false
      | _, _ => false
    | _ => false

def returnedVerdict (document : Document) (registry : Registry) (returned : Nat) : Bool :=
  let tree := document.tree
  let value := tree.unwrap returned
  match tree.kind value with
  | .awaitExpression => true
  | .newExpression =>
    match tree.childWith? value .constructed with
    | some constructed =>
      tree.kind constructed = .identifier && document.textOf constructed == "Promise"
    | none => false
  | .callExpression => document.callVerdict registry value
  | _ => false

/-- Is the function `async`, declared to return a promise, or seen to return one? -/
def functionVerdict (document : Document) (registry : Registry) (function : Nat) : Bool :=
  document.tree.isAsync function || document.declaresPromise function ||
    (document.tree.returnedValues function).any (document.returnedVerdict registry)

def candidateVerdict (document : Document) (registry : Registry) (candidate : Candidate) : Bool :=
  match candidate.kind with
  | .function => document.functionVerdict registry candidate.node
  | .call => document.callVerdict registry candidate.node

end PromiseDetection.Document

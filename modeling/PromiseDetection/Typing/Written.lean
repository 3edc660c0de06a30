import PromiseDetection.Code.Document
import PromiseDetection.Typing.Ty

/-!
Reading the types that are written in a document. Names stay names.
-/

namespace PromiseDetection.Document

/-- The members that the signatures of an object type or an interface body declare, given how the
types below it are read. -/
def membersOfSignaturesWith (document : Document) (body : Nat)
    (read : (inner : Nat) → document.tree.size - inner < document.tree.size - body → Ty) :
    List (String × Ty) :=
  let tree := document.tree
  (tree.namedChildren body).attach.filterMap fun ⟨signature, membership⟩ =>
    let readIn (role : Field) : Ty :=
      match found : tree.childWith? signature role with
      | some inner =>
        read inner
          (Nat.lt_trans
            (Tree.remaining_lt_of_mem_children (Tree.mem_children_of_childWith? found))
            (Tree.remaining_lt_of_mem_children
              (Tree.mem_children_of_mem_namedChildren membership)))
      | none => .unknown
    (document.keyIn? signature .name).bind fun name =>
      match tree.kind signature with
      | .propertySignature => some (name, readIn .declaredType)
      | .methodSignature => some (name, .returning (readIn .returnType))
      | _ => none

def writtenType (document : Document) (module : Nat) (position : Nat) : Ty :=
  let tree := document.tree
  let text := document.textOf position
  match tree.kind position with
  | .annotatedType | .parenthesizedType | .readonlyType =>
    match _found : tree.firstOperand? position with
    | some inner => writtenType document module inner
    | none => .unknown
  | .predefinedType => ((Primitive.ofKeyword? text).map Ty.primitive).getD .unknown
  | .typeIdentifier =>
    if text = "Promise" ∨ text = "PromiseLike" then .promise .unknown
    else .named text { node := position, module }
  | .nestedTypeIdentifier => .named text { node := position, module }
  | .genericType =>
    match _found : tree.childWith? position .name with
    | none => .unknown
    | some name =>
      if document.textOf name = "Promise" ∨ document.textOf name = "PromiseLike" then
        match _arguments : tree.childWith? position .typeArguments with
        | none => .promise .unknown
        | some arguments =>
          match _first : tree.firstOperand? arguments with
          | none => .promise .unknown
          | some argument => .promise (writtenType document module argument)
      else writtenType document module name
  | .unionType | .intersectionType =>
    .ofAlternatives ((tree.namedChildren position).attach.flatMap fun ⟨child, _membership⟩ =>
      (writtenType document module child).alternatives)
  | .objectType | .interfaceBody =>
    .object (document.membersOfSignaturesWith position fun inner _closer =>
      writtenType document module inner)
  | .functionType =>
    match _found : tree.childWith? position .returnType with
    | some result => .returning (writtenType document module result)
    | none => .returning .unknown
  | .literalType => .primitive .literal
  | .arrayType | .tupleType => .primitive .array
  | _ => .unknown
termination_by document.tree.size - position
decreasing_by
  · exact Tree.remaining_lt_of_mem_children (Tree.mem_children_of_firstOperand? _found)
  · exact Nat.lt_trans
      (Tree.remaining_lt_of_mem_children (Tree.mem_children_of_firstOperand? _first))
      (Tree.remaining_lt_of_mem_children (Tree.mem_children_of_childWith? _arguments))
  · exact Tree.remaining_lt_of_mem_children (Tree.mem_children_of_childWith? _found)
  · exact Tree.remaining_lt_of_mem_children (Tree.mem_children_of_mem_namedChildren _membership)
  · exact _closer
  · exact Tree.remaining_lt_of_mem_children (Tree.mem_children_of_childWith? _found)

def writtenTypeIn (document : Document) (module : Nat) (position : Nat) (role : Field) : Ty :=
  match document.tree.childWith? position role with
  | some written => document.writtenType module written
  | none => .unknown

def membersOfSignatures (document : Document) (module : Nat) (body : Nat) : List (String × Ty) :=
  document.membersOfSignaturesWith body fun inner _ => document.writtenType module inner

end PromiseDetection.Document

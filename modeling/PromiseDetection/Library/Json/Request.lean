import PromiseDetection.Library.Json.Reader
import PromiseDetection.Service.Codec

/-!
Reading requests.

A request is an object with members of known names, in any order and each at most once, or the list
of their values. Members of other names are skipped.
-/

namespace PromiseDetection.Service

open PromiseDetection.Json

namespace Request

def typeName : String := "struct JsonRpcRequest"

def depth : Nat := depthLimit - 1

structure Draft where
  version? : Option String
  id? : Option Value
  method? : Option String
  params? : Option Value

def Draft.empty : Draft := { version? := none, id? := none, method? := none, params? := none }

/-- Fails because a value of another type was expected than the one that comes next. -/
def failType {α : Type} (expected : String) : Reader α := do
  match ← Reader.peek with
  | none => Reader.failNext .endInValue
  | some first =>
    if first = '[' then Reader.failHere (.wrongType (.array []) expected)
    else if first = '\x7b' then Reader.failHere (.wrongType (.object []) expected)
    else do
      let found ← Reader.scalar .keep first
      Reader.failHere (.wrongType found expected)

def string : Reader String := do
  match ← Reader.peekPart with
  | none => Reader.failNext .endInValue
  | some first =>
    if first = '\x22' then Reader.quotedText .keep else failType "a string"

def value : Reader Value := Reader.value .keep depth

def failDuplicate {α : Type} (name : String) : Reader α := do
  if (← Reader.peekPart) = some '\x7d' then Reader.advance
  Reader.failHere (.duplicateField name)

def member (draft : Draft) (name : String) : Reader Draft := do
  match name with
  | "jsonrpc" =>
    if draft.version?.isSome then failDuplicate name
    else
      Reader.colon
      return { draft with version? := some (← string) }
  | "id" =>
    if draft.id?.isSome then failDuplicate name
    else
      Reader.colon
      return { draft with id? := some (← value) }
  | "method" =>
    if draft.method?.isSome then failDuplicate name
    else
      Reader.colon
      return { draft with method? := some (← string) }
  | "params" =>
    if draft.params?.isSome then failDuplicate name
    else
      Reader.colon
      return { draft with params? := some (← value) }
  | _ =>
    Reader.colon
    let _ ← Reader.value .skip depth
    return draft

def ofDraft (draft : Draft) : Reader Request := do
  match draft.version?, draft.method? with
  | none, _ => Reader.failHere (.missingField "jsonrpc")
  | _, none => Reader.failHere (.missingField "method")
  | some _, some method =>
    return { id? := draft.id?, method, params? := draft.params? }

/-- Reads the members of a request up to its end. A member takes at least one character, so the
length of the text bounds their number. -/
def members : Nat → Draft → Bool → Reader Request
  | 0, _, _ => Reader.failHere .tooDeep
  | bound + 1, draft, isFirst => do
    match ← Reader.nextName .keep isFirst with
    | none => ofDraft draft
    | some name => members bound (← member draft name) false

def failLength {α : Type} (length : Nat) : Reader α :=
  Reader.failHere (.wrongLength length (typeName ++ " with 4 elements"))

def listEnd : Reader Unit := do
  match ← Reader.peekPart with
  | none => Reader.failNext .endInList
  | some character =>
    if character = ']' then Reader.advance
    else if character = ',' then
      Reader.advance
      match ← Reader.peekPart with
      | some ']' => Reader.failNext .trailingComma
      | _ => Reader.failNext .trailingCharacters
    else Reader.failNext .trailingCharacters

/-- Reads a request that is the list of its values. Only the last of them may be missing. -/
def items : Reader Request := do
  if ← Reader.nextItem .keep true then
    let _ ← string
    if ← Reader.nextItem .keep false then
      let id ← value
      if ← Reader.nextItem .keep false then
        let method ← string
        if ← Reader.nextItem .keep false then
          let params ← value
          listEnd
          return { id? := some id, method, params? := some params }
        else return { id? := some id, method, params? := none }
      else failLength 2
    else failLength 1
  else failLength 0

def reader : Reader Request := do
  match ← Reader.peekPart with
  | none => Reader.failNext .endInValue
  | some first =>
    if first = '[' then
      Reader.advance
      items
    else if first = '\x7b' then
      Reader.advance
      members ((← get).rest.length + 1) .empty true
    else failType typeName

def read (line : String) : Except ReadError Request := reader.onText line

end Request

end PromiseDetection.Service

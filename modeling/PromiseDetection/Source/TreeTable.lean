import PromiseDetection.Library.Json.Reader
import PromiseDetection.Source.Unit

/-!
Tables of syntax trees: the grammar of the texts that a table lists.

A table is a JSON list of objects with the members `dialect`, `text` and `nodes`. The nodes stand in
document order, and each of them is a list: its kind, whether it is named, its role or null, the
ends of its range, and the position of its parent or null. A text that is not listed has a tree
without anything in it.
-/

namespace PromiseDetection

open PromiseDetection.Json

structure TreeRecord where
  dialect : Dialect
  text : String
  tree : Tree

abbrev TreeTable := List TreeRecord

namespace TreeTable

def grammar (table : TreeTable) : Grammar := fun dialect text =>
  ((table.find? fun record => record.dialect = dialect && record.text = text).map
    (·.tree)).getD default

def dialect? : Value → Option Dialect
  | .string "ts" => some .typeScript
  | .string "tsx" => some .tsx
  | _ => none

def offset? : Value → Option Nat
  | .number (.whole (.ofNat value)) => some value
  | _ => none

def orNull? {α : Type} (read : Value → Option α) : Value → Option (Option α)
  | .null => some none
  | value => (read value).map some

def role? : Value → Option Field
  | .string name => Field.ofName? name
  | _ => none

def node? : Value → Option Node
  | .array [.string kind, .bool isNamed, role, start, stop, parent] => do
    return {
      kind := Kind.ofName kind
      isNamed
      field? := role? role
      start := ← offset? start
      stop := ← offset? stop
      parent? := ← orNull? offset? parent }
  | _ => none

def record? : Value → Option TreeRecord
  | .object members => do
    let dialect ← (members.lookup "dialect").bind dialect?
    match members.lookup "text", members.lookup "nodes" with
    | some (.string text), some (.array nodes) =>
      let tree ← Tree.ofNodes? (← nodes.mapM node?).toArray
      return { dialect, text, tree }
    | _, _ => none
  | _ => none

def ofValue? : Value → Option TreeTable
  | .array records => records.mapM record?
  | _ => none

def ofText? (text : String) : Option TreeTable :=
  match Json.read text with
  | .ok value => ofValue? value
  | .error _ => none

end TreeTable

end PromiseDetection

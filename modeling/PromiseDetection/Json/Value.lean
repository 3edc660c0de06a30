import PromiseDetection.Json.Number

/-!
JSON values.
-/

namespace PromiseDetection.Json

inductive Value where
  | null
  | bool (value : Bool)
  | number (value : Number)
  | string (text : String)
  | array (items : List Value)
  | object (members : List (String × Value))
  deriving Inhabited

/-- Adds a member to members in the order of their names. A member with the same name gives way. -/
def insertMember (name : String) (value : Value) :
    List (String × Value) → List (String × Value)
  | [] => [(name, value)]
  | head :: rest =>
    if name = head.1 then (name, value) :: rest
    else if name < head.1 then (name, value) :: head :: rest
    else head :: insertMember name value rest

namespace Value

/-- The object with these members, in the order of their names. Of two members with one name the
later one counts. -/
def ofMembers (members : List (String × Value)) : Value :=
  .object (members.foldl (fun known member => insertMember member.1 member.2 known) [])

def ofNat (count : Nat) : Value := .number (.whole count)

end Value

end PromiseDetection.Json

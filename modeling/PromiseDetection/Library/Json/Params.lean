import PromiseDetection.Library.Json.Fault
import PromiseDetection.Service.Codec

/-!
Reading the parameters of an analysis request.

They come as an object, or as a list of their values without the last ones. Members of other names
do not count.
-/

namespace PromiseDetection.Service

open PromiseDetection.Json

namespace Params

def typeName : String := "struct AnalyzeParams"

def string : Value → Except Fault String
  | .string text => .ok text
  | other => .error (.wrongType other "a string")

def optional : Value → Except Fault (Option String)
  | .null => .ok none
  | other => (string other).map some

/-- The text, path or mode among members. Members are taken in the order of their names. -/
def ofMembers (members : List (String × Value)) : Except Fault Params := do
  let mode? ← (members.lookup "mode").elim (.ok none) optional
  let path? ← (members.lookup "path").elim (.ok none) optional
  match members.lookup "text" with
  | none => .error (.missingField "text")
  | some value => return { text := ← string value, path?, mode? }

def ofItems (items : List Value) : Except Fault Params := do
  match items with
  | [] => .error (.wrongLength 0 (typeName ++ " with 3 elements"))
  | text :: rest =>
    let text ← string text
    let path? ← rest.head?.elim (.ok none) optional
    let mode? ← rest.tail.head?.elim (.ok none) optional
    if rest.length ≤ 2 then return { text, path?, mode? }
    else .error (.wrongLength items.length "fewer elements in array")

def ofValue : Value → Except Fault Params
  | .object members => ofMembers members
  | .array items => ofItems items
  | other => .error (.wrongType other typeName)

end Params

end PromiseDetection.Service

import PromiseDetection.Json.Value

/-!
What the service leaves to a JSON library: the request that a line holds, the parameters that a
value holds, and how values are written.
-/

namespace PromiseDetection.Service

open PromiseDetection.Json

structure Params where
  text : String
  path? : Option String
  mode? : Option String
  deriving DecidableEq, Repr

structure Request where
  id? : Option Value
  method : String
  params? : Option Value

/-- A member that is null counts as missing. -/
def present? : Option Value → Option Value
  | some .null => none
  | member? => member?

namespace Request

/-- The identifier that a response has to carry. A request without one is a notification. -/
def identifier? (request : Request) : Option Value := present? request.id?

def arguments? (request : Request) : Option Value := present? request.params?

end Request

/-- A JSON library. What is wrong with a line or a value is told in its own words. -/
structure Codec where
  readRequest : String → Except String Request
  readParams : Value → Except String Params
  write : Value → String

end PromiseDetection.Service

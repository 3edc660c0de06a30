import PromiseDetection.Library.Json.Params
import PromiseDetection.Library.Json.Request

/-!
The JSON library that the program runs with.
-/

namespace PromiseDetection.Service

open PromiseDetection.Json

def Codec.standard : Codec where
  readRequest line := (Request.read line).mapError ReadError.message
  readParams value := (Params.ofValue value).mapError Fault.message
  write := Value.text

end PromiseDetection.Service

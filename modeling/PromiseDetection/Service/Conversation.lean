import PromiseDetection.Library.Json.Codec
import PromiseDetection.Service.Response
import PromiseDetection.Text.Lines

/-!
The analysis service: one line in, at most one line out.

The service keeps nothing between lines, so an answer depends on its own line alone. It says nothing
to blank lines and notifications, and it stops after it has answered a request to shut down. A line
whose bytes are not UTF-8 ends the conversation.
-/

namespace PromiseDetection.Service

open PromiseDetection.Json

structure Settings where
  grammar : Grammar
  disk : FileSystem
  /-- The mode of requests that name none. -/
  standardMode : Mode
  color : String
  codec : Codec := .standard

def modeOf (settings : Settings) (params : Params) : Except Refusal Mode :=
  match params.mode? with
  | none => .ok settings.standardMode
  | some text => (Mode.parse text).mapError .unknownMode

def answerAnalysis (settings : Settings) (params? : Option Value) : Except Refusal Value := do
  match params? with
  | none => .error .missingParams
  | some value =>
    let params ← (settings.codec.readParams value).mapError .invalidParams
    let mode ← modeOf settings params
    let spans ←
      (analyze settings.grammar settings.disk params.text (params.path?.map Path.mk) mode
        Flag.lowered).mapError .internal
    return analysisValue mode params.text spans

def farewell : String := "shutdown"

def answer (settings : Settings) (method : String) (params? : Option Value) :
    Except Refusal Value :=
  match method with
  | "initialize" => .ok (introduction settings.standardMode settings.color)
  | "promises/analyze" => answerAnalysis settings params?
  | "ping" | "shutdown" => .ok (.object [])
  | _ => .error (.unknownMethod method)

inductive Reaction where
  | silence
  | reply (reply : Reply)
  /-- A reply after which the service stops. -/
  | lastReply (reply : Reply)

def react (settings : Settings) (line : String) : Reaction :=
  let line := Text.trim line
  if line.isEmpty then .silence
  else
    match settings.codec.readRequest line with
    | .error error =>
      .reply (settings.codec.reply { id := .null, outcome := .error (.parse error) })
    | .ok request =>
      match request.identifier? with
      | none => .silence
      | some id =>
        let outcome := answer settings request.method request.arguments?
        let reply := settings.codec.reply { id, outcome }
        if request.method = farewell then .lastReply reply else .reply reply

structure Conversation where
  replies : List Reply
  /-- Did it end at a line that is not UTF-8? -/
  isBroken : Bool

def converse (settings : Settings) : List (Option String) → Conversation
  | [] => { replies := [], isBroken := false }
  | none :: _ => { replies := [], isBroken := true }
  | some line :: rest =>
    match react settings line with
    | .silence => converse settings rest
    | .lastReply reply => { replies := [reply], isBroken := false }
    | .reply reply =>
      let later := converse settings rest
      { later with replies := reply :: later.replies }

def serve (settings : Settings) (input : ByteArray) : Conversation :=
  converse settings (Text.lines input)

end PromiseDetection.Service

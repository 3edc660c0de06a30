import PromiseDetection.Analysis.Spans
import PromiseDetection.Service.Codec

/-!
Responses of the analysis service and the values they carry.
-/

namespace PromiseDetection.Service

open PromiseDetection.Json

def programName : String := "promise-lens"

def programVersion : String := "0.1.0"

/-- The type of the tokens that spans stand for. -/
def tokenType : String := "promise"

inductive Refusal where
  /-- The line is no request. -/
  | parse (error : String)
  | unknownMethod (method : String)
  | missingParams
  | invalidParams (error : String)
  | unknownMode (message : String)
  | internal (error : AnalysisError)

namespace Refusal

def code : Refusal → Int
  | .parse _ => -32700
  | .unknownMethod _ => -32601
  | .missingParams | .invalidParams _ | .unknownMode _ => -32602
  | .internal _ => -32603

def message : Refusal → String
  | .parse error => "Parse error: " ++ error
  | .unknownMethod method => "Method not found: " ++ method
  | .missingParams => "Missing params"
  | .invalidParams error => "Invalid params: " ++ error
  | .unknownMode message => message
  | .internal error => error.message

end Refusal

structure Response where
  id : Value
  outcome : Except Refusal Value

namespace Response

def json (response : Response) : Value :=
  match response.outcome with
  | .ok result =>
    .ofMembers [("jsonrpc", .string "2.0"), ("id", response.id), ("result", result)]
  | .error refusal =>
    .ofMembers
      [("jsonrpc", .string "2.0"), ("id", response.id),
        ("error",
          .ofMembers
            [("code", .number (.whole refusal.code)), ("message", .string refusal.message)])]

end Response

structure Reply where
  line : String
  deriving DecidableEq, Repr

def Codec.reply (codec : Codec) (response : Response) : Reply :=
  { line := codec.write response.json }

def introduction (standard : Mode) (color : String) : Value :=
  .ofMembers
    [("serverInfo",
        .ofMembers [("name", .string programName), ("version", .string programVersion)]),
      ("capabilities",
        .ofMembers
          [("legend",
              .ofMembers
                [("tokenTypes", .array [.string tokenType]), ("tokenModifiers", .array [])]),
            ("modes", .array (Mode.all.map fun mode => .string mode.name)),
            ("defaultMode", .string standard.name)]),
      ("color", .string color)]

def spanValue (source : String) (span : Span) : Value :=
  let position := span.position source
  .ofMembers
    [("start", .ofNat span.start), ("end", .ofNat span.stop), ("line", .ofNat position.line),
      ("column", .ofNat position.column), ("text", .string (span.text source))]

def analysisValue (mode : Mode) (source : String) (spans : List Span) : Value :=
  .ofMembers
    [("tokenType", .string tokenType), ("mode", .string mode.name),
      ("spans", .array (spans.map (spanValue source)))]

end PromiseDetection.Service

import PromiseDetection.Proofs.Text.Lines
import PromiseDetection.Service.Response

/-!
The lines of responses.

The service relies on a JSON library to write values compactly. A line of the service then consists
of the texts of its parts: the identifier, and either the result or the code and the message of a
refusal.
-/

namespace PromiseDetection.Service

open Json

def IsBare (text : String) : Prop :=
  ∀ character ∈ text.toList, 32 ≤ character.toNat ∧ character ≠ '\x22' ∧ character ≠ '\\'

instance (text : String) : Decidable (IsBare text) :=
  List.decidableBAll
    (fun character : Char => 32 ≤ character.toNat ∧ character ≠ '\x22' ∧ character ≠ '\\')
    text.toList

/-- A library writes a value without blanks between its parts, and without control characters, so
that the text stands on one line. -/
structure Codec.IsCompact (codec : Codec) : Prop where
  plain (value : Value) : Text.IsPlain (codec.write value).toList
  null : codec.write .null = "null"
  whole (value : Int) : codec.write (.number (.whole value)) = toString value
  bare {text : String} : IsBare text → codec.write (.string text) = "\"" ++ text ++ "\""
  object (members : List (String × Value)) :
    codec.write (.object members) =
      "\x7b" ++
        String.intercalate ","
          (members.map fun member =>
            codec.write (.string member.1) ++ ":" ++ codec.write member.2) ++
        "\x7d"

def resultLine (id result : String) : String :=
  String.join
    ["\x7b\"id\":", id, ",\"jsonrpc\":\"2.0\",\"result\":", result, "\x7d"]

def refusalLine (id code message : String) : String :=
  String.join
    ["\x7b\"error\":\x7b\"code\":", code, ",\"message\":", message, "\x7d,\"id\":", id,
      ",\"jsonrpc\":\"2.0\"\x7d"]

theorem Response.json_of_ok (id result : Value) :
    ({ id, outcome := .ok result } : Response).json =
      .object [("id", id), ("jsonrpc", .string "2.0"), ("result", result)] := by
  have before : "id" < "jsonrpc" := by decide +kernel
  have behind : ¬ "result" < "id" ∧ ¬ "result" < "jsonrpc" := by decide +kernel
  simp only [json, Value.ofMembers, List.foldl_cons, List.foldl_nil, insertMember,
    String.reduceEq, before, behind, if_true, if_false]

theorem Response.json_of_error (id : Value) (refusal : Refusal) :
    ({ id, outcome := .error refusal } : Response).json =
      .object
        [("error",
            .object
              [("code", .number (.whole refusal.code)), ("message", .string refusal.message)]),
          ("id", id), ("jsonrpc", .string "2.0")] := by
  have before : "id" < "jsonrpc" ∧ "error" < "id" := by decide +kernel
  have behind : ¬ "message" < "code" := by decide +kernel
  simp only [json, Value.ofMembers, List.foldl_cons, List.foldl_nil, insertMember,
    String.reduceEq, before, behind, if_true, if_false]

namespace Codec.IsCompact

variable {codec : Codec}

theorem line_of_ok (compact : codec.IsCompact) (id result : Value) :
    (codec.reply { id, outcome := .ok result }).line =
      resultLine (codec.write id) (codec.write result) := by
  have names : ∀ name ∈ ["id", "jsonrpc", "2.0", "result"], IsBare name := by decide +kernel
  simp only [reply, Response.json_of_ok, compact.object, resultLine]
  simp [compact.bare, names, ← String.toList_inj]

theorem line_of_error (compact : codec.IsCompact) (id : Value) (refusal : Refusal) :
    (codec.reply { id, outcome := .error refusal }).line =
      refusalLine (codec.write id) (toString refusal.code)
        (codec.write (.string refusal.message)) := by
  have names : ∀ name ∈ ["error", "code", "message", "id", "jsonrpc", "2.0"], IsBare name := by
    decide +kernel
  simp only [reply, Response.json_of_error, compact.object, refusalLine]
  simp [compact.object, compact.bare, compact.whole, names, ← String.toList_inj]

end Codec.IsCompact

end PromiseDetection.Service

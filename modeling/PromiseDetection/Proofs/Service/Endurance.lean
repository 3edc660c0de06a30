import PromiseDetection.Proofs.Service.Dialogue

/-!
Which malformed lines the service survives.

A line that is a text but no request is refused, and the conversation goes on as if it had not been
there. A line that is no text at all ends the conversation without an answer, and so all the lines
behind it are lost.
-/

namespace PromiseDetection.Service

open Json

variable {settings : Settings} {before : List (Option String)} {line : Option String}

/-- The service survives a line between others: it answers the line with a parse error, and the
other lines just as it would without it. -/
def Survives (settings : Settings) (before : List (Option String)) (line : Option String)
    (after : List (Option String)) : Prop :=
  ∃ (refusal : Reply) (error : String) (later : List Reply) (isBroken : Bool),
    refusal.line = refusalLine "null" "-32700" (settings.codec.write (.string error)) ∧
      converse settings (before ++ after) =
        { replies := (converse settings before).replies ++ later, isBroken } ∧
      converse settings (before ++ line :: after) =
        { replies := (converse settings before).replies ++ refusal :: later, isBroken }

theorem replies_of_undecoded (settings : Settings)
    (stays : ∀ text, some text ∈ before → isFarewell settings.codec text = false)
    (undecoded : none ∈ before ∨ line = none) (after : List (Option String)) :
    (converse settings (before ++ line :: after)).replies =
      (converse settings before).replies := by
  rw [converse_append stays]
  split_ifs with broken
  · rfl
  · have absent : line = none := undecoded.resolve_left broken
    rw [absent, converse, List.append_nil]

theorem not_survives_of_undecoded
    (stays : ∀ text, some text ∈ before → isFarewell settings.codec text = false)
    (undecoded : none ∈ before ∨ line = none) (after : List (Option String)) :
    ¬ Survives settings before line after := by
  rintro ⟨refusal, error, later, isBroken, -, -, conversed⟩
  have replies := replies_of_undecoded settings stays undecoded after
  rw [conversed] at replies
  simpa using congrArg List.length replies

theorem survives_of_text {text : String} (compact : settings.codec.IsCompact)
    (stays : ∀ text, some text ∈ before → isFarewell settings.codec text = false)
    (malformed : IsMalformed settings.codec (some text)) (decoded : none ∉ before)
    (after : List (Option String)) : Survives settings before (some text) after := by
  obtain ⟨error, answered⟩ := reply?_of_malformed settings malformed
  refine ⟨settings.codec.reply { id := .null, outcome := .error (.parse error) },
    "Parse error: " ++ error, (converse settings after).replies,
    (converse settings after).isBroken, ?refused, ?without, ?within⟩
  case refused =>
    rw [← compact.null]
    exact compact.line_of_error .null (.parse error)
  case without => rw [converse_append stays, if_neg decoded]
  case within =>
    have heard : converse settings (some text :: after) = _ := converse_cons settings text after
    rw [malformed.not_isFarewell, answered] at heard
    rw [converse_append stays, if_neg decoded, heard]
    rfl

/-- **Endurance.** The service survives a malformed line before the first farewell exactly if this
line and all the lines before it are texts. -/
theorem survives_iff (compact : settings.codec.IsCompact)
    (stays : ∀ text, some text ∈ before → isFarewell settings.codec text = false)
    (malformed : IsMalformed settings.codec line) (after : List (Option String)) :
    Survives settings before line after ↔ none ∉ before ∧ line ≠ none := by
  constructor
  · intro survives
    by_contra undecoded
    rw [not_and_or, not_not, not_not] at undecoded
    exact not_survives_of_undecoded stays undecoded after survives
  · rintro ⟨decoded, present⟩
    cases line with
    | none => exact absurd rfl present
    | some text => exact survives_of_text compact stays malformed decoded after

theorem isMalformed_halfRequest : IsMalformed .standard (some "\x7bnot json") := by
  refine ⟨by decide +kernel, ?_⟩
  have refused : (Codec.standard.readRequest (Text.trim "\x7bnot json")).isOk = false := by
    decide +kernel
  cases read : Codec.standard.readRequest (Text.trim "\x7bnot json") with
  | error error => exact ⟨error, rfl⟩
  | ok request =>
    rw [read] at refused
    cases refused

theorem survives_iff_halfRequest :
    bareSettings.codec.IsCompact ∧
      (∀ text, some text ∈ [some pingLine] → isFarewell bareSettings.codec text = false) ∧
      IsMalformed bareSettings.codec (some "\x7bnot json") ∧
        (Survives bareSettings [some pingLine] (some "\x7bnot json") [some pingLine] ↔
          none ∉ [some pingLine] ∧ some "\x7bnot json" ≠ none) := by
  have stays : ∀ text, some text ∈ [some pingLine] →
      isFarewell bareSettings.codec text = false := by
    intro text membership
    rw [Option.some.inj (List.mem_singleton.mp membership)]
    decide +kernel
  exact ⟨Codec.isCompact_standard, stays, isMalformed_halfRequest,
    survives_iff Codec.isCompact_standard stays isMalformed_halfRequest [some pingLine]⟩

/-- A byte that begins no character on a line of its own, and a request on the next line. -/
def undecodedInput : ByteArray := ⟨#[0xFF, 10]⟩ ++ (pingLine ++ "\n").toUTF8

/-- The service does not survive the line of the lone byte, and leaves the request behind it without
an answer. -/
theorem not_survives_undecodedInput :
    Text.lines undecodedInput = [none, some pingLine] ∧ IsMalformed bareSettings.codec none ∧
      ¬ Survives bareSettings [] none [some pingLine] ∧
        (serve bareSettings undecodedInput).replies.length = 0 := by
  have lines : Text.lines undecodedInput = [none, some pingLine] := by
    rw [Text.lines, Text.toList_bytes]
    decide +kernel
  refine ⟨lines, trivial, not_survives_of_undecoded (by simp) (.inr rfl) _, ?_⟩
  rw [serve, lines]
  rfl

end PromiseDetection.Service

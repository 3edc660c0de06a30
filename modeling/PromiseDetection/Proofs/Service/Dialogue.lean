import Mathlib.Tactic.SplitIfs
import PromiseDetection.CommandLine.Run
import PromiseDetection.Proofs.Library.Json
import PromiseDetection.Proofs.Text.Strip

/-!
The conversation, line by line.

A line is blank, malformed, a notification or a request that wants an answer, and the line alone
says which answer it gets. The service hears the lines up to the first one that makes it stop, and
it writes what these lines get, in their order and each answer on a line of its own.
-/

namespace PromiseDetection

namespace Service

open Json

variable {settings : Settings} {codec : Codec} {line : String} {request : Request} {id : Value}

def IsBlankLine (line : String) : Prop :=
  ∀ character ∈ line.toList, Text.isBlank character = true

instance (line : String) : Decidable (IsBlankLine line) :=
  List.decidableBAll (fun character => Text.isBlank character = true) line.toList

def Asks (codec : Codec) (line : String) (request : Request) : Prop :=
  ¬ IsBlankLine line ∧ codec.readRequest (Text.trim line) = .ok request

/-- A line is a request that expects no answer: its identifier is missing or null. -/
def Notifies (codec : Codec) (line : String) : Prop :=
  ∃ request, Asks codec line request ∧ (request.id? = none ∨ request.id? = some .null)

/-- There is something on a line, and it is no request. It need not even be a text. -/
def IsMalformed (codec : Codec) : Option String → Prop
  | none => True
  | some line =>
    ¬ IsBlankLine line ∧ ∃ error, codec.readRequest (Text.trim line) = .error error

/-- Does a line ask the service to stop, and expect an answer? -/
def isFarewell (codec : Codec) (line : String) : Bool :=
  match codec.readRequest (Text.trim line) with
  | .error _ => false
  | .ok request =>
    !decide (IsBlankLine line) && request.identifier?.isSome && request.method == farewell

/-- The lines up to the first one that asks the service to stop, that one included. -/
def heard (codec : Codec) : List String → List String
  | [] => []
  | line :: rest => if isFarewell codec line then [line] else line :: heard codec rest

theorem isEmpty_trim_iff : (Text.trim line).isEmpty = true ↔ IsBlankLine line := by
  rw [String.isEmpty_iff, Text.trim, String.ofList_eq_empty_iff, Text.strip_eq_nil_iff]
  rfl

theorem Request.identifier?_eq_none_iff :
    request.identifier? = none ↔ request.id? = none ∨ request.id? = some .null := by
  unfold identifier? present?
  split <;> simp_all

theorem Request.identifier?_eq_some_iff :
    request.identifier? = some id ↔ request.id? = some id ∧ id ≠ .null := by
  unfold identifier? present?
  split
  · simp_all
  · next other =>
    refine ⟨fun named => ⟨named, ?_⟩, And.left⟩
    rintro rfl
    exact other named

theorem Asks.isFarewell_eq (asks : Asks codec line request) :
    isFarewell codec line = (request.identifier?.isSome && request.method == farewell) := by
  obtain ⟨present, read⟩ := asks
  simp only [isFarewell, read, present, decide_false, Bool.not_false, Bool.true_and]

theorem isFarewell_iff :
    isFarewell codec line = true ↔
      ∃ request id, Asks codec line request ∧ request.id? = some id ∧ id ≠ .null ∧
        request.method = "shutdown" := by
  constructor
  · intro leaves
    cases read : codec.readRequest (Text.trim line) with
    | error error => simp [isFarewell, read] at leaves
    | ok request =>
      simp only [isFarewell, read, Bool.and_eq_true, Bool.not_eq_true', decide_eq_false_iff_not,
        beq_iff_eq] at leaves
      obtain ⟨⟨present, named⟩, method⟩ := leaves
      obtain ⟨id, named⟩ := Option.isSome_iff_exists.mp named
      obtain ⟨given, notNull⟩ := Request.identifier?_eq_some_iff.mp named
      exact ⟨request, id, ⟨present, read⟩, given, notNull, method⟩
  · rintro ⟨request, id, asks, given, notNull, method⟩
    rw [asks.isFarewell_eq, Request.identifier?_eq_some_iff.mpr ⟨given, notNull⟩, method]
    rfl

theorem kinds (codec : Codec) (line : String) :
    IsBlankLine line ∨ IsMalformed codec (some line) ∨ Notifies codec line ∨
      ∃ request id, Asks codec line request ∧ request.identifier? = some id := by
  by_cases blank : IsBlankLine line
  · exact .inl blank
  · apply Or.inr
    cases read : codec.readRequest (Text.trim line) with
    | error error => exact .inl ⟨blank, error, read⟩
    | ok request =>
      apply Or.inr
      cases named : request.identifier? with
      | none => exact .inl ⟨request, ⟨blank, read⟩, Request.identifier?_eq_none_iff.mp named⟩
      | some id => exact .inr ⟨request, id, ⟨blank, read⟩, named⟩

def reply? (settings : Settings) (line : String) : Option Reply :=
  match react settings line with
  | .silence => none
  | .reply reply | .lastReply reply => some reply

theorem react_of_blank (blank : IsBlankLine line) : react settings line = .silence := by
  rw [react, if_pos (isEmpty_trim_iff.mpr blank)]

theorem react_of_error {error : String} (present : ¬ IsBlankLine line)
    (read : settings.codec.readRequest (Text.trim line) = .error error) :
    react settings line =
      .reply (settings.codec.reply { id := .null, outcome := .error (.parse error) }) := by
  rw [react, if_neg (mt isEmpty_trim_iff.mp present), read]

theorem react_of_notification (asks : Asks settings.codec line request)
    (unnamed : request.identifier? = none) : react settings line = .silence := by
  rw [react, if_neg (mt isEmpty_trim_iff.mp asks.1), asks.2]
  simp only [unnamed]

theorem react_of_request (asks : Asks settings.codec line request)
    (named : request.identifier? = some id) :
    react settings line =
      if request.method = farewell then
        .lastReply (settings.codec.reply
          { id, outcome := answer settings request.method request.arguments? })
      else
        .reply (settings.codec.reply
          { id, outcome := answer settings request.method request.arguments? }) := by
  rw [react, if_neg (mt isEmpty_trim_iff.mp asks.1), asks.2]
  simp only [named]

theorem react_cases (settings : Settings) (line : String) :
    (react settings line = .silence ∧ isFarewell settings.codec line = false) ∨
      ∃ response, react settings line =
        if isFarewell settings.codec line then .lastReply (settings.codec.reply response)
        else .reply (settings.codec.reply response) := by
  obtain blank | ⟨present, error, read⟩ | ⟨request, asks, unnamed⟩ | ⟨request, id, asks, named⟩ :=
    kinds settings.codec line
  · apply Or.inl
    refine ⟨react_of_blank blank, Bool.eq_false_iff.mpr ?_⟩
    intro leaves
    obtain ⟨request, id, asks, -⟩ := isFarewell_iff.mp leaves
    exact asks.1 blank
  · apply Or.inr
    refine ⟨{ id := .null, outcome := .error (.parse error) }, ?_⟩
    rw [react_of_error present read, isFarewell, read]
    rfl
  · have unnamed := Request.identifier?_eq_none_iff.mpr unnamed
    apply Or.inl
    refine ⟨react_of_notification asks unnamed, ?_⟩
    rw [asks.isFarewell_eq, unnamed]
    rfl
  · apply Or.inr
    refine ⟨{ id, outcome := answer settings request.method request.arguments? }, ?_⟩
    rw [react_of_request asks named, asks.isFarewell_eq, named]
    simp

theorem reply?_of_request (asks : Asks settings.codec line request)
    (named : request.identifier? = some id) :
    reply? settings line =
      some (settings.codec.reply
        { id, outcome := answer settings request.method request.arguments? }) := by
  unfold reply?
  rw [react_of_request asks named]
  split_ifs <;> rfl

theorem reply?_of_malformed (settings : Settings)
    (malformed : IsMalformed settings.codec (some line)) :
    ∃ error, reply? settings line =
      some (settings.codec.reply { id := .null, outcome := .error (.parse error) }) := by
  obtain ⟨present, error, read⟩ := malformed
  refine ⟨error, ?_⟩
  unfold reply?
  rw [react_of_error present read]

theorem reply?_eq_none_iff :
    reply? settings line = none ↔ IsBlankLine line ∨ Notifies settings.codec line := by
  constructor
  · intro unanswered
    obtain blank | malformed | notifies | ⟨request, id, asks, named⟩ := kinds settings.codec line
    · exact .inl blank
    · obtain ⟨error, answered⟩ := reply?_of_malformed settings malformed
      rw [answered] at unanswered
      cases unanswered
    · exact .inr notifies
    · rw [reply?_of_request asks named] at unanswered
      cases unanswered
  · rintro (blank | ⟨request, asks, unnamed⟩)
    · unfold reply?
      rw [react_of_blank blank]
    · unfold reply?
      rw [react_of_notification asks (Request.identifier?_eq_none_iff.mpr unnamed)]

theorem IsMalformed.not_isFarewell (malformed : IsMalformed codec (some line)) :
    isFarewell codec line = false := by
  obtain ⟨-, error, read⟩ := malformed
  rw [isFarewell, read]

theorem converse_cons (settings : Settings) (line : String) (rest : List (Option String)) :
    converse settings (some line :: rest) =
      if isFarewell settings.codec line then
        { replies := (reply? settings line).toList, isBroken := false }
      else
        { replies := (reply? settings line).toList ++ (converse settings rest).replies
          isBroken := (converse settings rest).isBroken } := by
  unfold reply?
  rw [converse]
  obtain ⟨silent, stays⟩ | ⟨response, reacted⟩ := react_cases settings line
  · rw [silent, stays]
    rfl
  · rw [reacted]
    split_ifs <;> rfl

/-- The conversation over lines before it is over continues with the lines behind them. -/
theorem converse_append {before : List (Option String)}
    (stays : ∀ line, some line ∈ before → isFarewell settings.codec line = false)
    (after : List (Option String)) :
    converse settings (before ++ after) =
      if none ∈ before then converse settings before
      else
        { replies := (converse settings before).replies ++ (converse settings after).replies
          isBroken := (converse settings after).isBroken } := by
  induction before with
  | nil => simp [converse]
  | cons line rest inductionHypothesis =>
    have later := inductionHypothesis fun line membership =>
      stays line (List.mem_cons_of_mem _ membership)
    cases line with
    | none => simp [converse]
    | some line =>
      have stays : isFarewell settings.codec line = false := stays line List.mem_cons_self
      simp only [List.cons_append, converse_cons, stays, later, List.mem_cons, reduceCtorEq,
        false_or, Bool.false_eq_true, if_false]
      split_ifs <;> simp

theorem converse_texts (settings : Settings) (lines : List String) :
    converse settings (lines.map some) =
      { replies := (heard settings.codec lines).filterMap (reply? settings), isBroken := false } := by
  induction lines with
  | nil => rfl
  | cons line rest inductionHypothesis =>
    rw [List.map_cons, converse_cons, heard]
    split_ifs
    · rw [List.filterMap_cons, List.filterMap_nil]
      cases reply? settings line <;> rfl
    · rw [inductionHypothesis, List.filterMap_cons]
      cases reply? settings line <;> rfl

def written (settings : Settings) (lines : List String) : String :=
  Text.unlines ((converse settings (lines.map some)).replies.map Reply.line)

theorem exists_of_reply? {reply : Reply} (answered : reply? settings line = some reply) :
    ∃ response, reply = settings.codec.reply response := by
  unfold reply? at answered
  obtain ⟨silent, -⟩ | ⟨response, reacted⟩ := react_cases settings line
  · rw [silent] at answered
    cases answered
  · refine ⟨response, ?_⟩
    rw [reacted] at answered
    split_ifs at answered <;> exact (Option.some.inj answered).symm

theorem lines_written (compact : settings.codec.IsCompact) (lines : List String) :
    Text.lines (written settings lines).toUTF8 =
      ((heard settings.codec lines).filterMap (reply? settings)).map fun reply => some reply.line := by
  rw [written, converse_texts, Text.lines_unlines, List.map_map]
  · rfl
  · intro text membership
    obtain ⟨reply, replied, rfl⟩ := List.mem_map.mp membership
    obtain ⟨line, -, answered⟩ := List.mem_filterMap.mp replied
    obtain ⟨response, rfl⟩ := exists_of_reply? answered
    exact compact.plain response.json

theorem written_append {lines : List String}
    (stays : ∀ line ∈ lines, isFarewell settings.codec line = false) (others : List String) :
    written settings (lines ++ others) = written settings lines ++ written settings others := by
  have texts : ∀ line, some line ∈ lines.map some → isFarewell settings.codec line = false := by
    intro line membership
    obtain ⟨text, inside, same⟩ := List.mem_map.mp membership
    rw [← Option.some.inj same]
    exact stays text inside
  have decoded : none ∉ lines.map some := by simp
  simp only [written, List.map_append, converse_append texts, if_neg decoded, Text.unlines_append]

/-- **The conversation.** The service writes one line for each line it hears that is neither blank
nor a notification, in their order. A malformed line is refused under the identifier null and with
the code -32700; a request is answered under its own identifier, with a result or with the code and
the message of a refusal. The service hears the lines up to the first request to shut down that has
an identifier. Lines without such a request do not change what is written for the lines behind
them. -/
theorem conversation_linewise (compact : settings.codec.IsCompact) (lines : List String) :
    (∀ (libraries : CommandLine.Libraries) (input : ByteArray),
        libraries.codec = settings.codec → Text.lines input = lines.map some →
        (CommandLine.serveAll
          { grammar := settings.grammar, disk := settings.disk, input, libraries }
          settings.standardMode settings.color).output = written settings lines) ∧
      Text.lines (written settings lines).toUTF8 =
        ((heard settings.codec lines).filterMap (reply? settings)).map (some ·.line) ∧
      (∀ line, isFarewell settings.codec line = true ↔
        ∃ request id, Asks settings.codec line request ∧ request.id? = some id ∧ id ≠ .null ∧
          request.method = "shutdown") ∧
      (∀ line, reply? settings line = none ↔ IsBlankLine line ∨ Notifies settings.codec line) ∧
      (∀ line, IsMalformed settings.codec (some line) →
        ∃ (reply : Reply) (error : String), reply? settings line = some reply ∧
          reply.line = refusalLine "null" "-32700" (settings.codec.write (.string error))) ∧
      (∀ line request id, Asks settings.codec line request → request.id? = some id → id ≠ .null →
        ∃ reply : Reply, reply? settings line = some reply ∧
          match answer settings request.method request.arguments? with
          | .ok result =>
            reply.line = resultLine (settings.codec.write id) (settings.codec.write result)
          | .error refusal =>
            reply.line = refusalLine (settings.codec.write id) (toString refusal.code)
              (settings.codec.write (.string refusal.message))) ∧
      ∀ others, (∀ line ∈ lines, isFarewell settings.codec line = false) →
        written settings (lines ++ others) = written settings lines ++ written settings others := by
  refine ⟨?output, lines_written compact lines, fun line => isFarewell_iff,
    fun line => reply?_eq_none_iff, ?malformed, ?request, ?append⟩
  case output =>
    intro libraries input same read
    simp only [CommandLine.serveAll, CommandLine.Outcome.printing, serve, same, read, written,
      Text.unlines, List.map_map]
    rfl
  case malformed =>
    intro line malformed
    obtain ⟨error, answered⟩ := reply?_of_malformed settings malformed
    refine ⟨_, "Parse error: " ++ error, answered, ?_⟩
    rw [compact.line_of_error, compact.null]
    rfl
  case request =>
    intro line request id asks named present
    refine ⟨_, reply?_of_request asks (Request.identifier?_eq_some_iff.mpr ⟨named, present⟩), ?_⟩
    cases answered : answer settings request.method request.arguments? with
    | ok result => exact compact.line_of_ok id result
    | error refusal => exact compact.line_of_error id refusal
  case append => exact fun others stays => written_append stays others

def bareSettings : Settings where
  grammar := fun _ _ => default
  disk := { workingDirectory := [], entries := [] }
  standardMode := .hybrid
  color := "#c586c0"

def pingLine : String := "\x7b\"jsonrpc\":\"2.0\",\"id\":1,\"method\":\"ping\"\x7d"

/-- A request, a blank line, a notification, a malformed line, a farewell and a line behind it. -/
def sixLines : List String :=
  [pingLine, " ", "\x7b\"jsonrpc\":\"2.0\",\"method\":\"ping\"\x7d", "\x7bnot json",
    "\x7b\"jsonrpc\":\"2.0\",\"id\":\"bye\",\"method\":\"shutdown\"\x7d", pingLine]

theorem conversation_linewise_sixLines :
    bareSettings.codec.IsCompact ∧
      Text.lines (written bareSettings sixLines).toUTF8 =
        [some (resultLine "1" "\x7b\x7d"),
          some (refusalLine "null" "-32700"
            "\"Parse error: key must be a string at line 1 column 2\""),
          some (resultLine "\"bye\"" "\x7b\x7d")] := by
  refine ⟨Codec.isCompact_standard, ?_⟩
  rw [(conversation_linewise Codec.isCompact_standard sixLines).2.1]
  decide +kernel

end Service

end PromiseDetection

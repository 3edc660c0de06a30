import PromiseDetection.Analysis.Spans
import PromiseDetection.Json.Value

/-!
Reports: the spans of one file with their places, as text and as JSON.
-/

namespace PromiseDetection

structure Finding where
  span : Span
  position : Text.Position
  name : String

structure Report where
  path : String
  mode : Mode
  findings : List Finding

namespace Finding

def ofSpan (source : String) (span : Span) : Finding where
  span := span
  position := span.position source
  name := span.text source

def line (path : String) (finding : Finding) : String :=
  path ++ ":" ++ toString finding.position.line ++ ":" ++ toString finding.position.column ++
    "  " ++ finding.name

def json (finding : Finding) : Json.Value :=
  .object
    [("line", .ofNat finding.position.line), ("column", .ofNat finding.position.column),
      ("start", .ofNat finding.span.start), ("end", .ofNat finding.span.stop),
      ("name", .string finding.name)]

end Finding

namespace Report

def ofSpans (path : String) (mode : Mode) (source : String) (spans : List Span) : Report where
  path := path
  mode := mode
  findings := spans.map (Finding.ofSpan source)

def lines (report : Report) : List String := report.findings.map (Finding.line report.path)

def text (report : Report) : String :=
  String.join (report.lines.map fun line => line ++ "\n")

def json (report : Report) : Json.Value :=
  .object
    [("path", .string report.path), ("mode", .string report.mode.name),
      ("spans", .array (report.findings.map Finding.json))]

end Report

inductive FileError where
  | disk (error : DiskError)
  | analysis (error : AnalysisError)
  deriving DecidableEq, Repr

/-- Reads and analyses a file under a cancellation flag. A file that cannot be read does not ask the
flag. -/
def Report.ofFile (grammar : Grammar) (disk : FileSystem) (mode : Mode) (path : Path) :
    StateT Flag (Except FileError) Report := fun flag =>
  match disk.readText path with
  | .error error => .error (.disk error)
  | .ok (text, _) =>
    match (SourceUnit.parse grammar text (some path)).spans grammar disk mode flag with
    | .error error => .error (.analysis error)
    | .ok (spans, flag) => .ok (.ofSpans (plainPath path.text) mode text spans, flag)

end PromiseDetection

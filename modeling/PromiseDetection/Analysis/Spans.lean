import PromiseDetection.Analysis.Cancellation
import PromiseDetection.Analysis.Mode
import PromiseDetection.Registry.Worklist
import PromiseDetection.Typing.Inference

/-!
The promise spans of a unit.

Both ways to judge go through the same walk and the same candidates. A span is reported once, and
where both ways are used the second one is asked only about spans that the first left unclaimed. A
unit without a module graph has no semantic spans.
-/

namespace PromiseDetection

/-- A judge of candidates, with a state that it keeps from one candidate to the next. -/
abbrev Judge (State : Type) := Candidate → StateT State Option Bool

/-- Judges the candidate at one node and adds its span to those found. Spans that are claimed or
found already are not judged again. -/
def judgeAt {State : Type} (tree : Tree) (judge : Judge State) (claimed found : List Span)
    (position : Nat) : StateT State Option (List Span) :=
  match tree.candidate? position with
  | none => pure found
  | some candidate =>
    let span := tree.span candidate.name
    if claimed.contains span || found.contains span then pure found
    else do
      if ← judge candidate then pure (span.insertInto found) else pure found

def judgeAll {State : Type} (tree : Tree) (judge : Judge State) (claimed : List Span)
    (visited : List Nat) : StateT State Option (List Span) :=
  visited.foldlM (judgeAt tree judge claimed) []

def spansOfWalk {State : Type} (tree : Tree) (judge : Judge State) (start : State)
    (claimed : List Span) : Cancellable (List Span) :=
  Cancellable.alongWalk tree fun visited =>
    ((judgeAll tree judge claimed visited).run start).map (·.1)

namespace SourceUnit

def heuristicSpans (unit : SourceUnit) : Cancellable (List Span) := do
  let registry ← unit.document.collectRegistry
  spansOfWalk unit.tree
    (fun candidate => pure (unit.document.candidateVerdict registry candidate)) () []

/-- The spans that inference finds among those that are not claimed. -/
def semanticSpans (grammar : Grammar) (disk : FileSystem) (unit : SourceUnit)
    (claimed : List Span) : Cancellable (List Span) :=
  match ModuleGraph.build grammar disk unit with
  | .error _ => pure []
  | .ok graph =>
    spansOfWalk unit.tree (Inference.onGraph graph).candidateVerdict Session.fresh claimed

def spans (grammar : Grammar) (disk : FileSystem) (mode : Mode) (unit : SourceUnit) :
    Cancellable (List Span) :=
  match mode with
  | .heuristic => unit.heuristicSpans
  | .semantic => unit.semanticSpans grammar disk []
  | .hybrid => do
    let claimed ← unit.heuristicSpans
    let found ← unit.semanticSpans grammar disk claimed
    pure (claimed.foldl (fun all span => span.insertInto all) found)

end SourceUnit

def analyze (grammar : Grammar) (disk : FileSystem) (text : String) (path? : Option Path)
    (mode : Mode) (flag : Flag) : Except AnalysisError (List Span) :=
  ((SourceUnit.parse grammar text path?).spans grammar disk mode).under flag

end PromiseDetection

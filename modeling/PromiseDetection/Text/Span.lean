import PromiseDetection.Text.Position
import PromiseDetection.Text.Slice

/-!
Spans: half-open ranges of bytes in a text.
-/

namespace PromiseDetection

/-- A half-open range of bytes. -/
structure Span where
  start : Nat
  stop : Nat
  deriving Repr, DecidableEq, Inhabited

namespace Span

def length (span : Span) : Nat := span.stop - span.start

def isEmpty (span : Span) : Bool := span.stop ≤ span.start

def text (span : Span) (source : String) : String :=
  Text.slice source span.start span.stop

def position (span : Span) (source : String) : Text.Position :=
  Text.Position.ofOffset source span.start

/-- Spans are ordered by their start and then by their end. -/
def before (first second : Span) : Bool :=
  first.start < second.start || (first.start == second.start && first.stop < second.stop)

/-- Adds a span to an ordered list that holds every span once. -/
def insertInto (span : Span) : List Span → List Span
  | [] => [span]
  | head :: rest =>
    if span = head then head :: rest
    else if span.before head then span :: head :: rest
    else head :: insertInto span rest

end Span

end PromiseDetection

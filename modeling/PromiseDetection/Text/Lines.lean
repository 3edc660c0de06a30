/-!
The lines of a stream of bytes.

A line ends at a line feed, and a carriage return right before it belongs to the line end. The end
of the stream ends a line too, unless nothing follows the last line feed.
-/

namespace PromiseDetection.Text

def lineFeed : UInt8 := 10

def carriageReturn : UInt8 := 13

def splitLines : List UInt8 → List (List UInt8)
  | [] => []
  | byte :: rest =>
    if byte = lineFeed then [] :: splitLines rest
    else if byte = carriageReturn ∧ rest.head? = some lineFeed then splitLines rest
    else
      match splitLines rest with
      | [] => [[byte]]
      | line :: others => (byte :: line) :: others

def decodeLine? (line : List UInt8) : Option String :=
  String.fromUTF8? ⟨line.toArray⟩

/-- The lines of a stream, each of them decoded if it can be. -/
def lines (bytes : ByteArray) : List (Option String) :=
  (splitLines bytes.toList).map decodeLine?

end PromiseDetection.Text

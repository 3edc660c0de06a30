import PromiseDetection.Text.Blank
import PromiseDetection.Text.Lowercase

/-!
The three ways to analyse a unit.
-/

namespace PromiseDetection

inductive Mode where
  /-- By syntax and the registry alone. -/
  | heuristic
  /-- By inference alone. -/
  | semantic
  /-- By syntax first, and by inference where syntax found nothing. -/
  | hybrid
  deriving DecidableEq, Repr, Inhabited

namespace Mode

def all : List Mode := [.heuristic, .semantic, .hybrid]

def standard : Mode := .hybrid

def name : Mode → String
  | .heuristic => "heuristic"
  | .semantic => "semantic"
  | .hybrid => "hybrid"

def unknownMessage (text : String) : String :=
  "Unknown analysis mode: '" ++ text ++ "' (expected heuristic, semantic or hybrid)"

/-- Reads the name of a mode in any case of letters, with blanks around it. -/
def parse (text : String) : Except String Mode :=
  let word := Text.lowercase (Text.trim text)
  match word with
  | "heuristic" | "heuristics" | "syntax" => .ok .heuristic
  | "semantic" | "typed" => .ok .semantic
  | "hybrid" => .ok .hybrid
  | _ => .error (unknownMessage word)

/-- Reads the exact name of a mode. -/
def ofName? (text : String) : Option Mode := all.find? fun mode => mode.name == text

end Mode

end PromiseDetection

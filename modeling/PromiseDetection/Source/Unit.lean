import PromiseDetection.Code.Document
import PromiseDetection.Source.Dialect

/-!
Source units: a document together with the file it belongs to.

How a text becomes a tree is left to a grammar, which every analysis takes as an argument.
-/

namespace PromiseDetection

/-- A grammar gives every text of a dialect a tree. Broken text has a tree too. -/
abbrev Grammar := Dialect → String → Tree

/-- A document, its dialect and the file it belongs to, if it belongs to one. -/
structure SourceUnit where
  document : Document
  path? : Option Path
  dialect : Dialect
  deriving Inhabited

namespace SourceUnit

def parse (grammar : Grammar) (text : String) (path? : Option Path) : SourceUnit :=
  let dialect := Dialect.ofUnit path?
  { document := { text, tree := grammar dialect text }, path?, dialect }

def tree (unit : SourceUnit) : Tree := unit.document.tree

end SourceUnit

/-- A path without the mark that some systems put in front of very long paths. -/
def plainPath (text : String) : String := Text.dropStart text "\\\\?\\"

namespace SourceUnit

def shownPath (unit : SourceUnit) : String :=
  match unit.path? with
  | some path => plainPath path.text
  | none => "<untitled>"

end SourceUnit

end PromiseDetection

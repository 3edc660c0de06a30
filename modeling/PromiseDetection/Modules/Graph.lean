import PromiseDetection.Modules.Resolution
import PromiseDetection.Source.Unit

/-!
The module graph: a unit and the modules it reaches by relative imports.

Module 0 is the analysed unit. The others are numbered in the order in which they are first reached
when the imports of module 0, module 1 and so on are followed, and at most 64 modules are kept.
-/

namespace PromiseDetection

inductive GraphError where
  | noFile (path : String)
  | notAScript (path : String)
  deriving DecidableEq, Repr

namespace GraphError

def reason : GraphError → String
  | .noFile _ => "source has no file identity"
  | .notAScript _ => "not a JavaScript or TypeScript file"

def path : GraphError → String
  | .noFile path => path
  | .notAScript path => path

def message (error : GraphError) : String :=
  "Cannot build type context for '" ++ error.path ++ "': " ++ error.reason

end GraphError

structure ModuleGraph where
  root : SourceUnit
  imports : Array SourceUnit
  /-- The module that a specifier of a module leads to. -/
  links : List ((Nat × String) × Nat)
  deriving Inhabited

namespace ModuleGraph

def moduleLimit : Nat := 64

def size (graph : ModuleGraph) : Nat := graph.imports.size + 1

def unit (graph : ModuleGraph) : Nat → SourceUnit
  | 0 => graph.root
  | position + 1 => (graph.imports[position]?).getD graph.root

def document (graph : ModuleGraph) (module : Nat) : Document := (graph.unit module).document

def tree (graph : ModuleGraph) (module : Nat) : Tree := (graph.document module).tree

def target? (graph : ModuleGraph) (module : Nat) (specifier : String) : Option Nat :=
  graph.links.lookup (module, specifier)

end ModuleGraph

namespace SourceUnit

/-- Does a specifier name a file next to the importing one? -/
def isRelative (specifier : String) : Bool :=
  Text.startsWith specifier "./" || Text.startsWith specifier "../"

/-- The relative specifiers of the top-level imports and exports, each once. -/
def specifiers (unit : SourceUnit) : List String :=
  let tree := unit.tree
  let written := (tree.namedChildren tree.root).filterMap fun statement =>
    match tree.kind statement with
    | .importStatement | .exportStatement =>
      (tree.childWith? statement .source).map unit.document.literalText
    | _ => none
  (written.filter isRelative).foldl
    (fun seen specifier => if seen.contains specifier then seen else seen ++ [specifier]) []

end SourceUnit

namespace ModuleGraph

/-- A graph in the making, with the module that each file was loaded as. -/
structure Loading where
  graph : ModuleGraph
  loaded : List (Path × Nat)

/-- Follows one specifier of a module. A specifier that leads nowhere is passed over. -/
def Loading.follow (grammar : Grammar) (disk : FileSystem) (module : Nat) (directory : Path)
    (loading : Loading) (specifier : String) : Loading :=
  match Modules.resolve? disk directory specifier with
  | none => loading
  | some target =>
    match loading.loaded.find? fun known => known.1.same target with
    | some (_, id) =>
      { loading with
        graph :=
          { loading.graph with links := ((module, specifier), id) :: loading.graph.links } }
    | none =>
      if moduleLimit ≤ loading.graph.size then loading
      else
        match disk.readText target with
        | .error _ => loading
        | .ok (text, _) =>
          let id := loading.graph.size
          { graph :=
              { loading.graph with
                imports := loading.graph.imports.push (SourceUnit.parse grammar text (some target))
                links := ((module, specifier), id) :: loading.graph.links }
            loaded := (target, id) :: loading.loaded }

def Loading.visit (grammar : Grammar) (disk : FileSystem) (loading : Loading) (module : Nat) :
    Loading :=
  if module < loading.graph.size then
    let unit := loading.graph.unit module
    match unit.path?.bind Path.parent? with
    | none => loading
    | some directory =>
      unit.specifiers.foldl (Loading.follow grammar disk module directory) loading
  else loading

def build (grammar : Grammar) (disk : FileSystem) (unit : SourceUnit) :
    Except GraphError ModuleGraph :=
  match unit.path? with
  | none => .error (.noFile unit.shownPath)
  | some path =>
    if (Dialect.ofPath? path).isNone then .error (.notAScript unit.shownPath)
    else
      let start : Loading :=
        { graph := { root := unit, imports := #[], links := [] }
          loaded := [(disk.canonical path, 0)] }
      .ok ((List.range moduleLimit).foldl (Loading.visit grammar disk) start).graph

end ModuleGraph

end PromiseDetection

import PromiseDetection.Modules.Scope

/-!
What a module exports.

The first export statement that has something to say about a name decides it. Only where none does,
the modules behind `export *` are asked in turn. A search follows at most eight re-exports, so it
ends on every graph.
-/

namespace PromiseDetection

/-- What an export statement says about a name. -/
inductive ExportDecision where
  /-- The name is exported here, as this declaration if there is one. -/
  | here (declaration? : Option Declaration)
  /-- The name is taken from another module under a name of its own. -/
  | elsewhere (module : Nat) (name : String)
  deriving DecidableEq, Repr

namespace ModuleGraph

def reexportLimit : Nat := 8

/-- What a default export of a declaration exports; the declaration needs no name. -/
def defaultDeclaration (graph : ModuleGraph) (module : Nat) (space : NameSpace)
    (declaration : Nat) : Declaration :=
  let tree := graph.tree module
  let here : Site := { node := declaration, module }
  match tree.kind declaration, space with
  | .classDeclaration, _ | .abstractClassDeclaration, _ | .classExpression, _ => .classLike here
  | kind, .value =>
    if tree.isFunction declaration ∨ kind = .functionSignature then .function here
    else .expression here
  | _, .type => .alias here

def exportSource? (graph : ModuleGraph) (module : Nat) (statement : Nat) : Option String :=
  ((graph.tree module).childWith? statement .source).map (graph.document module).literalText

def clauseDecides? (graph : ModuleGraph) (module : Nat) (name : String) (space : NameSpace)
    (source? : Option String) (clause : Nat) : Option ExportDecision := do
  let document := graph.document module
  let tree := graph.tree module
  let own ← (tree.namedChildren clause).findSome? fun specifier =>
    if tree.kind specifier = .exportSpecifier then do
      let own ← tree.childWith? specifier .name
      let exported := (tree.childWith? specifier .alias).getD own
      if document.nameOrValue exported = name then some (document.nameOrValue own) else none
    else none
  match source? with
  | none => some (.here (graph.declarationAt? module own space tree.root))
  | some specifier =>
    match graph.target? module specifier with
    | none => some (.here none)
    | some target => some (.elsewhere target own)

def exportDecides? (graph : ModuleGraph) (module : Nat) (name : String) (space : NameSpace)
    (statement : Nat) : Option ExportDecision :=
  let document := graph.document module
  let tree := graph.tree module
  let isDefault := (tree.childOfKind? statement .defaultWord).isSome
  match tree.childWith? statement .declaration with
  | some declaration =>
    if isDefault ∧ name = "default" then
      some (.here (some (graph.defaultDeclaration module space declaration)))
    else
      (graph.declaredBy? module name space declaration).map fun found => .here (some found)
  | none =>
    match (if isDefault ∧ name = "default" ∧ space = .value then
      tree.childWith? statement .value else none) with
    | some value => some (.here (some (.expression { node := value, module })))
    | none =>
      let source? := graph.exportSource? module statement
      match tree.childOfKind? statement .namespaceExport with
      | some exported => do
        let specifier ← source?
        let known ← tree.firstOperand? exported
        if document.nameOrValue known = name then
          some (.here (some (.imported (graph.target? module specifier) specifier .wholeModule)))
        else none
      | none => do
        let clause ← tree.childOfKind? statement .exportClause
        graph.clauseDecides? module name space source? clause

def starSource? (graph : ModuleGraph) (module : Nat) (statement : Nat) : Option String :=
  let tree := graph.tree module
  if (tree.childWith? statement .declaration).isNone ∧
      (tree.childOfKind? statement .namespaceExport).isNone ∧
      (tree.childOfKind? statement .exportClause).isNone
  then graph.exportSource? module statement
  else none

def exportStatements (graph : ModuleGraph) (module : Nat) : List Nat :=
  let tree := graph.tree module
  (tree.namedChildren tree.root).filter fun statement => tree.kind statement = .exportStatement

/-- Searches the exports of a module, visiting at most `visits` modules on one way. -/
def searchExport? (graph : ModuleGraph) (space : NameSpace) :
    (visits : Nat) → (module : Nat) → (name : String) → Option Declaration
  | 0, _, _ => none
  | visits + 1, module, name =>
    let statements := graph.exportStatements module
    match statements.findSome? (graph.exportDecides? module name space) with
    | some (.here declaration?) => declaration?
    | some (.elsewhere target own) => graph.searchExport? space visits target own
    | none =>
      (statements.filterMap (graph.starSource? module)).findSome? fun specifier =>
        (graph.target? module specifier).bind fun target =>
          graph.searchExport? space visits target name

def exportedValue (graph : ModuleGraph) (module : Nat) (name : String) :
    Except InferenceError Declaration :=
  match graph.searchExport? .value (reexportLimit + 1) module name with
  | some declaration => .ok declaration
  | none => .error (.noSuchValue name)

def exportedType (graph : ModuleGraph) (module : Nat) (name : String) :
    Except InferenceError Declaration :=
  match graph.searchExport? .type (reexportLimit + 1) module name with
  | some declaration => .ok declaration
  | none => .error (.noSuchType name)

end ModuleGraph

end PromiseDetection

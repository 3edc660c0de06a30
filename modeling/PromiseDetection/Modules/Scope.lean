import PromiseDetection.Modules.Declaration
import PromiseDetection.Modules.Graph

/-!
Lexical lookup: the innermost scope around a node that declares a name decides what it refers to.

Functions declare their parameters and type parameters, and blocks and programs what their
statements declare.
-/

namespace PromiseDetection

namespace Document

/-- The parameter of a function that has a name. Only plain identifiers are names here. -/
def parameterOf? (document : Document) (function : Nat) (name : String) : Option Nat :=
  let tree := document.tree
  match tree.childWith? function .parameter with
  | some parameter => if document.textOf parameter = name then some parameter else none
  | none => do
    let parameters ← tree.childWith? function .parameters
    (tree.namedChildren parameters).find? fun parameter =>
      let pattern := (tree.childWith? parameter .pattern).getD parameter
      tree.kind pattern = .identifier && document.textOf pattern = name

def isNamed (document : Document) (position : Nat) (name : String) : Bool :=
  (document.tree.childWith? position .name).any fun own => document.textOf own == name

def declaresTypeParameter (document : Document) (scope : Nat) (name : String) : Bool :=
  (document.tree.childWith? scope .typeParameters).any fun parameters =>
    (document.tree.namedChildren parameters).any fun parameter => document.isNamed parameter name

/-- The names an import clause binds, each with what it takes, in the order written. -/
def importedNames (document : Document) (clause : Nat) : List (String × ImportedPart) :=
  let tree := document.tree
  (tree.namedChildren clause).flatMap fun part =>
    match tree.kind part with
    | .identifier => [(document.textOf part, .defaultExport)]
    | .namespaceImport =>
      (tree.childOfKind? part .identifier).toList.map fun name =>
        (document.textOf name, .wholeModule)
    | .namedImports =>
      (tree.namedChildren part).filterMap fun specifier =>
        if tree.kind specifier = .importSpecifier then
          (tree.childWith? specifier .name).map fun imported =>
            let known := (tree.childWith? specifier .alias).getD imported
            (document.textOf known, .named (document.nameOrValue imported))
        else none
    | _ => []

end Document

namespace ModuleGraph

/-- The import that binds a name, if the import statement does. The last binding counts. -/
def importOf? (graph : ModuleGraph) (module : Nat) (statement : Nat) (name : String) :
    Option Declaration := do
  let document := graph.document module
  let source ← document.tree.childWith? statement .source
  let specifier := document.literalText source
  let clause ← document.tree.childOfKind? statement .importClause
  let (_, binding) ← (document.importedNames clause).reverse.find? fun bound => bound.1 == name
  some (.imported (graph.target? module specifier) specifier binding)

def declaredBy? (graph : ModuleGraph) (module : Nat) (name : String) (space : NameSpace)
    (statement : Nat) : Option Declaration :=
  let document := graph.document module
  let tree := graph.tree module
  let here : Site := { node := statement, module }
  match tree.kind statement with
  | .exportStatement =>
    match _found : tree.childWith? statement .declaration with
    | some inner => declaredBy? graph module name space inner
    | none => none
  | .ambientDeclaration =>
    (tree.namedChildren statement).attach.findSome? fun ⟨inner, _membership⟩ =>
      declaredBy? graph module name space inner
  | .functionDeclaration | .generatorDeclaration | .functionSignature =>
    if space = .value ∧ document.isNamed statement name then some (.function here) else none
  | .classDeclaration | .abstractClassDeclaration =>
    if document.isNamed statement name then some (.classLike here) else none
  | .lexicalDeclaration | .variableDeclaration =>
    if space = .value then
      ((tree.namedChildren statement).find? fun declarator =>
        tree.kind declarator = .variableDeclarator &&
          (tree.childWith? declarator .name).any fun own =>
            tree.kind own = .identifier && document.textOf own = name).map
        fun declarator => .variable { node := declarator, module }
    else none
  | .interfaceDeclaration =>
    if space = .type ∧ document.isNamed statement name then some (.interface here) else none
  | .typeAliasDeclaration =>
    if space = .type ∧ document.isNamed statement name then some (.alias here) else none
  | .importStatement => graph.importOf? module statement name
  | _ => none
termination_by (graph.tree module).size - statement
decreasing_by
  · exact Tree.remaining_lt_of_mem_children (Tree.mem_children_of_childWith? _found)
  · exact Tree.remaining_lt_of_mem_children (Tree.mem_children_of_mem_namedChildren _membership)

def holdsStatements (kind : Kind) : Bool :=
  match kind with
  | .program | .statementBlock | .switchCase | .switchDefault => true
  | _ => false

/-- What a function declares under the name of a value: a parameter, or itself where it is an
expression. -/
def functionDeclares? (graph : ModuleGraph) (module : Nat) (function : Nat) (name : String) :
    Option Declaration :=
  let document := graph.document module
  let tree := graph.tree module
  match document.parameterOf? function name with
  | some parameter => some (.parameter { node := parameter, module })
  | none =>
    match tree.kind function with
    | .functionDeclaration | .methodDefinition => none
    | _ =>
      if document.isNamed function name then some (.function { node := function, module })
      else none

def scopeDeclares? (graph : ModuleGraph) (module : Nat) (name : String) (space : NameSpace)
    (scope : Nat) : Option Declaration :=
  let document := graph.document module
  let tree := graph.tree module
  if space = .type ∧ document.declaresTypeParameter scope name then some .typeParameter
  else if tree.isFunction scope then
    match space with
    | .value => graph.functionDeclares? module scope name
    | .type => none
  else if holdsStatements (tree.kind scope) then
    (tree.namedChildren scope).findSome? (graph.declaredBy? module name space)
  else none

/-- What the scopes around a node declare under a name, the node itself being the innermost. -/
def declarationAt? (graph : ModuleGraph) (module : Nat) (name : String) (space : NameSpace)
    (scope : Nat) : Option Declaration :=
  match graph.scopeDeclares? module name space scope with
  | some declaration => some declaration
  | none =>
    match _found : (graph.tree module).parent? scope with
    | some parent => declarationAt? graph module name space parent
    | none => none
termination_by scope
decreasing_by exact Tree.parent?_lt _found

/-- The value a name refers to at a node; `Promise` and `fetch` are known everywhere. -/
def valueNamed (graph : ModuleGraph) (name : String) (place : Site) :
    Except InferenceError Declaration :=
  match graph.declarationAt? place.module name .value place.node with
  | some declaration => .ok declaration
  | none =>
    match name with
    | "Promise" => .ok (.builtin .promiseConstructor)
    | "fetch" => .ok (.builtin .fetch)
    | _ => .error (.noSuchValue name)

/-- The type a name refers to at a node; `Response` is known everywhere. -/
def typeNamed (graph : ModuleGraph) (name : String) (place : Site) :
    Except InferenceError Declaration :=
  match graph.declarationAt? place.module name .type place.node with
  | some declaration => .ok declaration
  | none =>
    match name with
    | "Response" => .ok (.builtin .response)
    | _ => .error (.noSuchType name)

end ModuleGraph

end PromiseDetection

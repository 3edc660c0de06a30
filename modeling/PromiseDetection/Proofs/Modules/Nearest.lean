import PromiseDetection.Modules.Scope
import PromiseDetection.Proofs.Tree.Ancestors

/-!
The nearest binding of a name.

A look-up goes from the innermost scope around a place outwards and takes the first scope that
declares the name. What binds a name is wider than what declares it: a parameter and a declarator
bind every name in their pattern, and only a plain identifier is looked at. Such a scope is passed
over, and the name is taken for whatever a scope further outside declares, or for a builtin.
-/

namespace PromiseDetection

namespace Document

variable (document : Document) (name : String)

/-- Does a pattern bind a name? Patterns of objects and arrays bind the names in their parts, also
with a default, under another key or as the rest. -/
inductive PatternBinds : Nat → Prop where
  | name {pattern : Nat}
      (kind : document.tree.kind pattern = .identifier ∨
        document.tree.kind pattern = .other "shorthand_property_identifier_pattern")
      (text : document.textOf pattern = name) : PatternBinds pattern
  | part {pattern part : Nat}
      (kind : document.tree.kind pattern = .other "object_pattern" ∨
        document.tree.kind pattern = .other "array_pattern" ∨
        document.tree.kind pattern = .other "rest_pattern")
      (inside : part ∈ document.tree.namedChildren pattern) (binds : PatternBinds part) :
      PatternBinds pattern
  | defaulted {pattern left : Nat}
      (kind : document.tree.kind pattern = .other "assignment_pattern" ∨
        document.tree.kind pattern = .other "object_assignment_pattern")
      (found : document.tree.childWith? pattern .left = some left) (binds : PatternBinds left) :
      PatternBinds pattern
  | keyed {pattern value : Nat}
      (kind : document.tree.kind pattern = .other "pair_pattern")
      (found : document.tree.childWith? pattern .value = some value) (binds : PatternBinds value) :
      PatternBinds pattern

def IsPlain (pattern : Nat) : Prop :=
  document.tree.kind pattern = .identifier ∧ document.textOf pattern = name

/-- The pattern of a parameter. An arrow function may have a bare parameter instead of a list. -/
def ParameterPattern (function pattern : Nat) : Prop :=
  match document.tree.childWith? function .parameter with
  | some bare => pattern = bare
  | none => ∃ parameters, document.tree.childWith? function .parameters = some parameters ∧
      ∃ parameter ∈ document.tree.namedChildren parameters,
        pattern = (document.tree.childWith? parameter .pattern).getD parameter

inductive Holds : Nat → Nat → Prop where
  | itself {statement : Nat} : Holds statement statement
  | exported {statement declaration inner : Nat}
      (kind : document.tree.kind statement = .exportStatement)
      (found : document.tree.childWith? statement .declaration = some declaration)
      (holds : Holds declaration inner) : Holds statement inner
  | ambient {statement declaration inner : Nat}
      (kind : document.tree.kind statement = .ambientDeclaration)
      (inside : declaration ∈ document.tree.namedChildren statement)
      (holds : Holds declaration inner) : Holds statement inner

def DeclaratorPattern (statement pattern : Nat) : Prop :=
  (document.tree.kind statement = .lexicalDeclaration ∨
    document.tree.kind statement = .variableDeclaration) ∧
  ∃ declarator ∈ document.tree.namedChildren statement,
    document.tree.kind declarator = .variableDeclarator ∧
    document.tree.childWith? declarator .name = some pattern

def ScopePattern (scope pattern : Nat) : Prop :=
  (document.tree.isFunction scope ∧ document.ParameterPattern scope pattern) ∨
    (ModuleGraph.holdsStatements (document.tree.kind scope) ∧
      ∃ statement ∈ document.tree.namedChildren scope, ∃ inner,
        document.Holds statement inner ∧ document.DeclaratorPattern inner pattern)

def Binds (scope : Nat) : Prop :=
  ∃ pattern, document.ScopePattern scope pattern ∧ document.PatternBinds name pattern

def BindsPlainly (scope : Nat) : Prop :=
  ∃ pattern, document.ScopePattern scope pattern ∧ document.IsPlain name pattern

/-- A function declares the name of a plain or a bare parameter, and its own name if it is an
expression. -/
def FunctionDeclares (function : Nat) : Prop :=
  (∃ pattern, document.ParameterPattern function pattern ∧ document.textOf pattern = name ∧
    (document.tree.childWith? function .parameter = some pattern ∨
      document.tree.kind pattern = .identifier)) ∨
  (document.tree.kind function ≠ .functionDeclaration ∧
    document.tree.kind function ≠ .methodDefinition ∧ document.isNamed function name)

def StatementDeclares (statement : Nat) : Prop :=
  match document.tree.kind statement with
  | .functionDeclaration | .generatorDeclaration | .functionSignature
  | .classDeclaration | .abstractClassDeclaration => document.isNamed statement name
  | .lexicalDeclaration | .variableDeclaration =>
    ∃ pattern, document.DeclaratorPattern statement pattern ∧ document.IsPlain name pattern
  | .importStatement =>
    (document.tree.childWith? statement .source).isSome ∧
      ∃ clause, document.tree.childOfKind? statement .importClause = some clause ∧
        ∃ part, (name, part) ∈ document.importedNames clause
  | _ => False

def Declares (scope : Nat) : Prop :=
  (document.tree.isFunction scope ∧ document.FunctionDeclares name scope) ∨
    (ModuleGraph.holdsStatements (document.tree.kind scope) ∧
      ∃ statement ∈ document.tree.namedChildren scope, ∃ inner,
        document.Holds statement inner ∧ document.StatementDeclares name inner)

variable {document : Document} {name : String} {scope function statement : Nat}

theorem not_isFunction_of_holdsStatements
    (holds : ModuleGraph.holdsStatements (document.tree.kind scope)) :
    document.tree.isFunction scope = false := by
  unfold ModuleGraph.holdsStatements at holds
  unfold Tree.isFunction
  split at holds <;> simp_all

theorem BindsPlainly.declares (plainly : document.BindsPlainly name scope) :
    document.Declares name scope := by
  obtain ⟨pattern, ⟨isFunction, parameter⟩ | ⟨holds, statement, inside, inner, wraps, declarator⟩,
    plain⟩ := plainly
  · exact Or.inl ⟨isFunction, Or.inl ⟨pattern, parameter, plain.2, Or.inr plain.1⟩⟩
  · refine Or.inr ⟨holds, statement, inside, inner, wraps, ?_⟩
    rcases declarator.1 with kind | kind <;> simp only [StatementDeclares, kind] <;>
      exact ⟨pattern, declarator, plain⟩

theorem isSome_parameterOf?_iff :
    (document.parameterOf? function name).isSome ↔
      ∃ pattern, document.ParameterPattern function pattern ∧ document.textOf pattern = name ∧
        (document.tree.childWith? function .parameter = some pattern ∨
          document.tree.kind pattern = .identifier) := by
  cases bare : document.tree.childWith? function .parameter with
  | some parameter =>
    by_cases same : document.textOf parameter = name <;>
      simp [parameterOf?, ParameterPattern, bare, same]
  | none =>
    cases listed : document.tree.childWith? function .parameters with
    | none => simp [parameterOf?, ParameterPattern, bare, listed]
    | some parameters =>
      simp only [parameterOf?, ParameterPattern, bare, listed, Option.bind_eq_bind,
        Option.bind_some, List.find?_isSome, Bool.and_eq_true, decide_eq_true_eq, reduceCtorEq,
        false_or, Option.some.injEq, exists_eq_left']
      constructor
      · rintro ⟨parameter, inside, kind, text⟩
        exact ⟨_, ⟨parameter, inside, rfl⟩, text, kind⟩
      · rintro ⟨_, ⟨parameter, inside, rfl⟩, text, kind⟩
        exact ⟨parameter, inside, kind, text⟩

theorem exists_holds_iff {condition : Nat → Prop} :
    (∃ inner, document.Holds statement inner ∧ condition inner) ↔
      condition statement ∨
      (document.tree.kind statement = .exportStatement ∧
        ∃ declaration, document.tree.childWith? statement .declaration = some declaration ∧
          ∃ inner, document.Holds declaration inner ∧ condition inner) ∨
      (document.tree.kind statement = .ambientDeclaration ∧
        ∃ declaration ∈ document.tree.namedChildren statement,
          ∃ inner, document.Holds declaration inner ∧ condition inner) := by
  constructor
  · rintro ⟨inner, itself | ⟨kind, found, holds⟩ | ⟨kind, inside, holds⟩, met⟩
    · exact Or.inl met
    · exact Or.inr (Or.inl ⟨kind, _, found, inner, holds, met⟩)
    · exact Or.inr (Or.inr ⟨kind, _, inside, inner, holds, met⟩)
  · rintro (met | ⟨kind, _, found, inner, holds, met⟩ | ⟨kind, _, inside, inner, holds, met⟩)
    · exact ⟨statement, .itself, met⟩
    · exact ⟨inner, .exported kind found holds, met⟩
    · exact ⟨inner, .ambient kind inside holds, met⟩

end Document

namespace ModuleGraph

variable {graph : ModuleGraph} {module : Nat} {name : String} {scope function statement node : Nat}

theorem isSome_importOf?_iff :
    (graph.importOf? module statement name).isSome ↔
      ((graph.document module).tree.childWith? statement .source).isSome ∧
        ∃ clause, (graph.document module).tree.childOfKind? statement .importClause = some clause ∧
          ∃ part, (name, part) ∈ (graph.document module).importedNames clause := by
  cases source : (graph.document module).tree.childWith? statement .source with
  | none => simp [importOf?, source]
  | some source' =>
    cases found : (graph.document module).tree.childOfKind? statement .importClause with
    | none => simp [importOf?, source, found]
    | some clause => simp [importOf?, source, found, Option.isSome_bind]

theorem isSome_find?_declarator_iff
    (kind : (graph.tree module).kind statement = .lexicalDeclaration ∨
      (graph.tree module).kind statement = .variableDeclaration) :
    (((graph.tree module).namedChildren statement).find? fun declarator =>
        (graph.tree module).kind declarator = .variableDeclarator &&
          ((graph.tree module).childWith? declarator .name).any fun own =>
            (graph.tree module).kind own = .identifier &&
              (graph.document module).textOf own = name).isSome ↔
      ∃ pattern, (graph.document module).DeclaratorPattern statement pattern ∧
        (graph.document module).IsPlain name pattern := by
  simp only [List.find?_isSome, Option.any_eq_true, Bool.and_eq_true, decide_eq_true_eq]
  constructor
  · rintro ⟨declarator, inside, isDeclarator, own, found, plain⟩
    exact ⟨own, ⟨kind, declarator, inside, isDeclarator, found⟩, plain⟩
  · rintro ⟨own, ⟨_, declarator, inside, isDeclarator, found⟩, plain⟩
    exact ⟨declarator, inside, isDeclarator, own, found, plain⟩

theorem isSome_declaredBy?_iff_of_ne (exported : (graph.tree module).kind statement ≠ .exportStatement)
    (ambient : (graph.tree module).kind statement ≠ .ambientDeclaration) :
    (graph.declaredBy? module name .value statement).isSome ↔
      (graph.document module).StatementDeclares name statement := by
  have same : (graph.document module).tree = graph.tree module := rfl
  rw [declaredBy?]
  simp only [Document.StatementDeclares, same]
  cases kind : (graph.tree module).kind statement with
  | exportStatement => exact absurd kind exported
  | ambientDeclaration => exact absurd kind ambient
  | lexicalDeclaration => simpa using isSome_find?_declarator_iff (Or.inl kind)
  | variableDeclaration => simpa using isSome_find?_declarator_iff (Or.inr kind)
  | importStatement => exact isSome_importOf?_iff
  | _ => simp

/-- What a statement declares stands in it, behind any number of exports and ambient declarations.
The induction goes from a statement to the ones inside of it. -/
theorem isSome_declaredBy?_iff :
    (graph.declaredBy? module name .value statement).isSome ↔
      ∃ inner, (graph.document module).Holds statement inner ∧
        (graph.document module).StatementDeclares name inner := by
  have same : (graph.document module).tree = graph.tree module := rfl
  induction measure : (graph.tree module).size - statement using Nat.strong_induction_on
    generalizing statement with
  | _ remaining inductionHypothesis =>
    subst measure
    have shrinks {child : Nat} (inside : child ∈ (graph.tree module).children statement) :
        (graph.declaredBy? module name .value child).isSome ↔
          ∃ inner, (graph.document module).Holds child inner ∧
            (graph.document module).StatementDeclares name inner :=
      inductionHypothesis _ (Tree.remaining_lt_of_mem_children inside) rfl
    rw [Document.exists_holds_iff, same]
    by_cases exported : (graph.tree module).kind statement = .exportStatement
    · have nothing : ¬ (graph.document module).StatementDeclares name statement := by
        simp [Document.StatementDeclares, same, exported]
      rw [declaredBy?]
      simp only [exported, nothing, false_or, true_and, reduceCtorEq, false_and, or_false]
      split
      · next inner found =>
        rw [shrinks (Tree.mem_children_of_childWith? found)]
        simp [found]
      · next missing => simp [missing]
    by_cases ambient : (graph.tree module).kind statement = .ambientDeclaration
    · have nothing : ¬ (graph.document module).StatementDeclares name statement := by
        simp [Document.StatementDeclares, same, ambient]
      rw [declaredBy?]
      simp only [ambient, nothing, false_or, true_and, reduceCtorEq, false_and,
        List.findSome?_isSome_iff, List.mem_attach, Subtype.exists]
      refine exists_congr fun declaration => ?_
      rw [exists_prop]
      exact and_congr_right fun inside =>
        shrinks (Tree.mem_children_of_mem_namedChildren inside)
    · simp [exported, ambient, isSome_declaredBy?_iff_of_ne exported ambient]

theorem isSome_functionDeclares?_iff :
    (graph.functionDeclares? module function name).isSome ↔
      (graph.document module).FunctionDeclares name function := by
  have same : (graph.document module).tree = graph.tree module := rfl
  rw [Document.FunctionDeclares, ← Document.isSome_parameterOf?_iff, same]
  cases found : (graph.document module).parameterOf? function name with
  | some parameter => simp [functionDeclares?, found]
  | none =>
    simp only [functionDeclares?, found]
    split <;> simp_all

theorem isSome_scopeDeclares?_iff (graph : ModuleGraph) :
    (graph.scopeDeclares? module name .value scope).isSome ↔
      (graph.document module).Declares name scope := by
  have same : (graph.document module).tree = graph.tree module := rfl
  rw [Document.Declares, same]
  simp only [scopeDeclares?, reduceCtorEq, false_and, if_false]
  by_cases isFunction : (graph.tree module).isFunction scope
  · have noStatements : ¬ holdsStatements ((graph.tree module).kind scope) := fun holds => by
      simp [← same, Document.not_isFunction_of_holdsStatements holds] at isFunction
    simp [isFunction, noStatements, isSome_functionDeclares?_iff]
  · by_cases holds : holdsStatements ((graph.tree module).kind scope) <;>
      simp [isFunction, holds, isSome_declaredBy?_iff]

theorem declarationAt?_eq_or {space : NameSpace} :
    graph.declarationAt? module name space node =
      (graph.scopeDeclares? module name space node).or
        (((graph.tree module).parent? node).bind (graph.declarationAt? module name space)) := by
  rw [declarationAt?]
  cases graph.scopeDeclares? module name space node with
  | some declaration => rfl
  | none =>
    simp only [Option.none_or]
    split
    · next parent found => simp [found]
    · next missing => simp [missing]

theorem declarationAt?_eq_firstAround? {space : NameSpace} :
    graph.declarationAt? module name space node =
      (graph.tree module).firstAround? (graph.scopeDeclares? module name space) node :=
  Tree.eq_firstAround? fun _ => declarationAt?_eq_or

theorem isSome_declarationAt?_iff :
    (graph.declarationAt? module name .value node).isSome ↔
      ∃ scope, (graph.tree module).IsAround scope node ∧
        (graph.document module).Declares name scope := by
  rw [declarationAt?_eq_firstAround?, Tree.isSome_firstAround?_iff]
  simp only [isSome_scopeDeclares?_iff]

/-- What the scopes of a module declare: something that stands in the module, or what one of its
specifiers leads to. -/
def IsOwn (graph : ModuleGraph) (module : Nat) : Declaration → Prop
  | .function place | .classLike place | .variable place | .parameter place | .expression place
  | .interface place | .alias place => place.module = module
  | .typeParameter => True
  | .imported module? specifier _ => module? = graph.target? module specifier
  | .builtin _ => False

section

variable {space : NameSpace} {declaration : Declaration}

theorem isOwn_importOf? (found : graph.importOf? module statement name = some declaration) :
    graph.IsOwn module declaration := by
  simp only [importOf?, Option.bind_eq_bind, Option.bind_eq_some_iff, Option.some.injEq] at found
  obtain ⟨source, _, _, _, _, _, rfl⟩ := found
  rfl

theorem isOwn_declaredBy?
    (found : graph.declaredBy? module name space statement = some declaration) :
    graph.IsOwn module declaration := by
  fun_induction graph.declaredBy? module name space statement with
  | case1 _ _ _ _ _ inductionHypothesis => exact inductionHypothesis found
  | case3 _ _ _ inductionHypothesis =>
    obtain ⟨⟨inner, within⟩, _, declared⟩ := List.exists_of_findSome?_eq_some found
    exact inductionHypothesis inner within declared
  | case14 | case16 =>
    obtain ⟨_, _, rfl⟩ := Option.map_eq_some_iff.mp found
    rfl
  | case22 => exact isOwn_importOf? found
  | _ => cases found <;> rfl

theorem isOwn_functionDeclares?
    (found : graph.functionDeclares? module scope name = some declaration) :
    graph.IsOwn module declaration := by
  unfold functionDeclares? at found
  dsimp only at found
  repeat' split at found
  all_goals cases found
  all_goals rfl

theorem isOwn_scopeDeclares?
    (found : graph.scopeDeclares? module name space scope = some declaration) :
    graph.IsOwn module declaration := by
  unfold scopeDeclares? at found
  dsimp only at found
  repeat' split at found
  · cases found
    trivial
  · exact isOwn_functionDeclares? found
  · cases found
  · obtain ⟨statement, _, declared⟩ := List.exists_of_findSome?_eq_some found
    exact isOwn_declaredBy? declared
  · cases found

theorem isOwn_declarationAt?
    (found : graph.declarationAt? module name space node = some declaration) :
    graph.IsOwn module declaration := by
  rw [declarationAt?_eq_firstAround?, Tree.firstAround?_eq_some_iff] at found
  obtain ⟨_, _, declares, _⟩ := found
  exact isOwn_scopeDeclares? declares

end

variable {place : Site}

theorem exists_valueNamed_iff :
    (∃ declaration, graph.valueNamed name place = .ok declaration) ↔
      (∃ scope, (graph.tree place.module).IsAround scope place.node ∧
        (graph.document place.module).Declares name scope) ∨ name = "Promise" ∨ name = "fetch" := by
  rw [← isSome_declarationAt?_iff]
  unfold valueNamed
  cases graph.declarationAt? place.module name .value place.node with
  | some declaration => simp
  | none =>
    simp only [Option.isSome_none, Bool.false_eq_true, false_or]
    split <;> simp_all

/-- A declaration belongs to a scope around a place, and this scope is another one or stands inside
of it. -/
def DeclaredWithin (graph : ModuleGraph) (name : String) (place : Site) (scope : Nat)
    (declaration : Declaration) : Prop :=
  ∃ inner, (graph.tree place.module).IsAround inner place.node ∧
    (graph.tree place.module).IsAround scope inner ∧
    graph.scopeDeclares? place.module name .value inner = some declaration

/-- Where a scope around a place binds a name by a parameter or by a declarator, the name is never
taken for something that a scope further outside declares, nor for a builtin. -/
def NearestWins (graph : ModuleGraph) (name : String) (place : Site) : Prop :=
  ∀ scope, (graph.tree place.module).IsAround scope place.node →
    (graph.document place.module).Binds name scope →
    ∀ declaration, graph.valueNamed name place = .ok declaration →
      graph.DeclaredWithin name place scope declaration

/-- If a scope around a place declares a name, then the name stands for what this scope declares, or
a scope inside of it. -/
theorem exists_declaredWithin {scope inner : Nat}
    (around : (graph.tree place.module).IsAround inner place.node)
    (inside : (graph.tree place.module).IsAround scope inner)
    (declares : (graph.document place.module).Declares name inner) :
    ∃ declaration, graph.valueNamed name place = .ok declaration ∧
      graph.DeclaredWithin name place scope declaration := by
  obtain ⟨declaration, found⟩ :=
    Option.isSome_iff_exists.mp (isSome_declarationAt?_iff.mpr ⟨inner, around, declares⟩)
  have resolved : graph.valueNamed name place = .ok declaration := by simp [valueNamed, found]
  rw [declarationAt?_eq_firstAround?, Tree.firstAround?_eq_some_iff] at found
  obtain ⟨first, aroundFirst, declared, nearest⟩ := found
  refine ⟨declaration, resolved, first, aroundFirst, ?_, declared⟩
  rcases Tree.isAround_or_isAbove around aroundFirst with lower | higher
  · exact inside.trans lower
  · rw [← isSome_scopeDeclares?_iff graph, nearest inner higher around] at declares
    simp at declares

/-- **The nearest binding.** The nearest binding of a name wins at a place exactly if each scope
that binds the name around the place declares it, or a scope inside of this one does, or else the
name stands for nothing at all. A scope that binds the name plainly does declare it. -/
theorem nearestWins_iff (graph : ModuleGraph) (name : String) (place : Site) :
    (graph.NearestWins name place ↔
      ∀ scope, (graph.tree place.module).IsAround scope place.node →
        (graph.document place.module).Binds name scope →
        (∃ inner, (graph.tree place.module).IsAround inner place.node ∧
          (graph.tree place.module).IsAround scope inner ∧
          (graph.document place.module).Declares name inner) ∨
        (name ≠ "Promise" ∧ name ≠ "fetch" ∧
          ∀ outer, (graph.tree place.module).IsAround outer place.node →
            ¬ (graph.document place.module).Declares name outer)) ∧
    ∀ scope, (graph.tree place.module).IsAround scope place.node →
      (graph.document place.module).BindsPlainly name scope →
      ∃ declaration, graph.valueNamed name place = .ok declaration ∧
        graph.DeclaredWithin name place scope declaration := by
  refine ⟨forall₃_congr fun scope around binds => ?_, fun scope around plainly =>
    exists_declaredWithin around (Or.inl rfl) plainly.declares⟩
  constructor
  · intro wins
    by_cases resolved : ∃ declaration, graph.valueNamed name place = .ok declaration
    · obtain ⟨declaration, found⟩ := resolved
      obtain ⟨inner, aroundInner, inside, declared⟩ := wins declaration found
      refine Or.inl ⟨inner, aroundInner, inside, (isSome_scopeDeclares?_iff _).mp ?_⟩
      simp [declared]
    · rw [exists_valueNamed_iff] at resolved
      push Not at resolved
      exact Or.inr ⟨resolved.2.1, resolved.2.2, resolved.1⟩
  · rintro (⟨inner, aroundInner, inside, declares⟩ | ⟨noPromise, noFetch, undeclared⟩) declaration
      found
    · obtain ⟨known, named, within⟩ := exists_declaredWithin aroundInner inside declares
      rw [found] at named
      cases named
      exact within
    · rcases exists_valueNamed_iff.mp ⟨declaration, found⟩ with ⟨outer, aroundOuter, declares⟩ |
        same | same
      · exact absurd declares (undeclared outer aroundOuter)
      · exact absurd same noPromise
      · exact absurd same noFetch

def unpackedParameterNodes : Array Node :=
  #[⟨.program, true, none, 0, 40, none⟩, ⟨.functionDeclaration, true, none, 0, 40, some 0⟩,
    ⟨.functionWord, false, none, 0, 8, some 1⟩, ⟨.identifier, true, some .name, 9, 10, some 1⟩,
    ⟨.other "formal_parameters", true, some .parameters, 10, 21, some 1⟩,
    ⟨.other "(", false, none, 10, 11, some 4⟩,
    ⟨.other "required_parameter", true, none, 11, 20, some 4⟩,
    ⟨.other "object_pattern", true, some .pattern, 11, 20, some 6⟩,
    ⟨.other "\x7b", false, none, 11, 12, some 7⟩,
    ⟨.other "shorthand_property_identifier_pattern", true, none, 13, 18, some 7⟩,
    ⟨.other "\x7d", false, none, 19, 20, some 7⟩, ⟨.other ")", false, none, 20, 21, some 4⟩,
    ⟨.statementBlock, true, some .body, 22, 40, some 1⟩,
    ⟨.other "\x7b", false, none, 22, 23, some 12⟩, ⟨.returnStatement, true, none, 24, 38, some 12⟩,
    ⟨.other "return", false, none, 24, 30, some 14⟩, ⟨.callExpression, true, none, 31, 38, some 14⟩,
    ⟨.identifier, true, some .callee, 31, 36, some 16⟩,
    ⟨.other "arguments", true, none, 36, 38, some 16⟩, ⟨.other "(", false, none, 36, 37, some 18⟩,
    ⟨.other ")", false, none, 37, 38, some 18⟩, ⟨.other "\x7d", false, none, 39, 40, some 12⟩]

def unpackedParameter : ModuleGraph where
  root :=
    { document :=
        { text := "function f({ fetch }) { return fetch() }"
          tree :=
            { nodes := unpackedParameterNodes
              ends := Tree.endsOf unpackedParameterNodes
              nonempty := by decide +kernel
              ends_size := by decide +kernel
              nested := by decide +kernel } }
      path? := some ⟨"main.ts"⟩
      dialect := .typeScript }
  imports := #[]
  links := []

/-- In `function f({ fetch }) { return fetch() }` the parameter binds the name, and the call is
taken for one of the builtin. -/
theorem not_nearestWins_unpackedParameter :
    (unpackedParameter.tree 0).IsAbove 1 17 ∧
      (unpackedParameter.document 0).Binds "fetch" 1 ∧
      unpackedParameter.valueNamed "fetch" { node := 17, module := 0 } =
        .ok (.builtin .fetch) ∧
      ¬ unpackedParameter.NearestWins "fetch" { node := 17, module := 0 } := by
  have around : (unpackedParameter.tree 0).IsAbove 1 17 := by decide +kernel
  have binds : (unpackedParameter.document 0).Binds "fetch" 1 := by
    refine ⟨7, Or.inl ⟨by decide +kernel, ?_⟩, .part (Or.inl (by decide +kernel))
      (show 9 ∈ _ by decide +kernel) (.name (Or.inr (by decide +kernel)) (by decide +kernel))⟩
    have bare : (unpackedParameter.document 0).tree.childWith? 1 .parameter = none := by
      decide +kernel
    have listed : (unpackedParameter.document 0).tree.childWith? 1 .parameters = some 4 := by
      decide +kernel
    simp only [Document.ParameterPattern, bare]
    exact ⟨4, listed, 6, by decide +kernel, by decide +kernel⟩
  have undeclared : unpackedParameter.declarationAt? 0 "fetch" .value 17 = none := by
    decide +kernel
  have builtin : unpackedParameter.valueNamed "fetch" { node := 17, module := 0 } =
      .ok (.builtin .fetch) := by simp [valueNamed, undeclared]
  refine ⟨around, binds, builtin, fun wins => ?_⟩
  obtain ⟨inner, aroundInner, _, declared⟩ := wins 1 (Or.inr around) binds _ builtin
  have found := isSome_declarationAt?_iff.mpr
    ⟨inner, aroundInner, (isSome_scopeDeclares?_iff _).mp (Option.isSome_of_eq_some declared)⟩
  simp [undeclared] at found

end ModuleGraph

end PromiseDetection

import PromiseDetection.Proofs.Modules.Reexport

/-!
Default exports against named exports.

What a default export of a declaration exports, and what a statement declares under a name, are
found by two case analyses. They agree on classes, and on functions as values. They do not agree on
functions as types, where a default export exports the function as an alias and the name nothing,
and on interfaces, which a default export exports as an alias and as a value.
-/

namespace PromiseDetection

inductive Declaration.SameAt (here there : Site) : Declaration → Declaration → Prop where
  | function : SameAt here there (.function here) (.function there)
  | classLike : SameAt here there (.classLike here) (.classLike there)
  | variable : SameAt here there (.variable here) (.variable there)
  | parameter : SameAt here there (.parameter here) (.parameter there)
  | expression : SameAt here there (.expression here) (.expression there)
  | interface : SameAt here there (.interface here) (.interface there)
  | alias : SameAt here there (.alias here) (.alias there)

namespace Kind

def IsClassDeclaration (kind : Kind) : Prop :=
  kind = .classDeclaration ∨ kind = .abstractClassDeclaration

def IsFunctionDeclaration (kind : Kind) : Prop :=
  kind = .functionDeclaration ∨ kind = .generatorDeclaration ∨ kind = .functionSignature

end Kind

/-- An export statement with a declaration, before which the module says nothing about a name. -/
structure DeclaringExport (name : String) (space : NameSpace) where
  graph : ModuleGraph
  module : Nat
  statement : Nat
  declaration : Nat
  before : List Nat
  after : List Nat
  order : graph.exportStatements module = before ++ statement :: after
  first : ∀ other ∈ before, ∀ decision, ¬ graph.Decides module name space other decision
  declares : (graph.tree module).childWith? statement .declaration = some declaration

namespace DeclaringExport

variable {name : String} {space : NameSpace}

def site (exporting : DeclaringExport name space) : Site :=
  { node := exporting.declaration, module := exporting.module }

def kind (exporting : DeclaringExport name space) : Kind :=
  (exporting.graph.tree exporting.module).kind exporting.declaration

def IsDefault (exporting : DeclaringExport name space) : Prop :=
  ((exporting.graph.tree exporting.module).childOfKind? exporting.statement .defaultWord).isSome

def exported? (exporting : DeclaringExport name space) : Option Declaration :=
  exporting.graph.searchExport? space (ModuleGraph.reexportLimit + 1) exporting.module name

theorem exported?_of_decides {exporting : DeclaringExport name space}
    {declaration? : Option Declaration}
    (decides : exporting.graph.Decides exporting.module name space exporting.statement
      (.here declaration?)) : exporting.exported? = declaration? := by
  have decided : exporting.graph.ModuleDecides exporting.module name space (.here declaration?) := by
    rw [ModuleGraph.ModuleDecides, exporting.order]
    exact .of_silent exporting.first decides
  exact ModuleGraph.searchExport?_of_moduleDecides decided

theorem exported?_of_isDefault {exporting : DeclaringExport "default" space}
    (default : exporting.IsDefault) :
    exporting.exported? =
      some (exporting.graph.defaultDeclaration exporting.module space exporting.declaration) :=
  exported?_of_decides (.byDefault exporting.declares ⟨default, rfl⟩)

theorem decides_iff {exporting : DeclaringExport name space} (plain : ¬ exporting.IsDefault)
    {decision : ExportDecision} :
    exporting.graph.Decides exporting.module name space exporting.statement decision ↔
      ∃ known, exporting.graph.declaredBy? exporting.module name space exporting.declaration =
          some known ∧ decision = .here (some known) := by
  have declares := exporting.declares
  constructor
  · intro decides
    cases decides with
    | byDefault _ default => exact absurd default.1 plain
    | byName found _ declared =>
      cases declares.symm.trans found
      exact ⟨_, declared, rfl⟩
    | value bare => exact nomatch declares.symm.trans bare
    | wholeModule names => exact nomatch declares.symm.trans names.1
    | listed lists => exact nomatch declares.symm.trans lists.1.1
  · rintro ⟨known, declared, rfl⟩
    exact .byName declares (fun default => plain default.1) declared

end DeclaringExport

/-- A declaration that one module exports by default, and another one, which has nothing else under
that name, by its name. -/
structure DefaultTwins (name : String) (space : NameSpace) where
  byDefault : DeclaringExport "default" space
  byName : DeclaringExport name space
  default : byDefault.IsDefault
  plain : ¬ byName.IsDefault
  named : (byName.graph.document byName.module).isNamed byName.declaration name
  sameKind : byDefault.kind = byName.kind
  mayBeDefault : byName.kind.IsClassDeclaration ∨ byName.kind.IsFunctionDeclaration ∨
    byName.kind = .interfaceDeclaration
  /-- Where the declaration declares nothing, nothing else of the module goes by the name. -/
  only : (∀ decision, ¬ byName.graph.Decides byName.module name space byName.statement decision) →
    byName.exported? = none

namespace DefaultTwins

variable {name : String} {space : NameSpace}

/-- Both exports are of the same kind and of the declaration, or neither module exports anything. -/
def Agree (twins : DefaultTwins name space) : Prop :=
  Option.Rel (Declaration.SameAt twins.byDefault.site twins.byName.site) twins.byDefault.exported?
    twins.byName.exported?

theorem exported?_byName (twins : DefaultTwins name space) :
    twins.byName.exported? =
      twins.byName.graph.declaredBy? twins.byName.module name space twins.byName.declaration := by
  cases declared : twins.byName.graph.declaredBy? twins.byName.module name space
      twins.byName.declaration with
  | some known =>
    exact DeclaringExport.exported?_of_decides
      ((DeclaringExport.decides_iff twins.plain).mpr ⟨known, declared, rfl⟩)
  | none =>
    refine twins.only fun decision decides => ?_
    obtain ⟨known, found, -⟩ := (DeclaringExport.decides_iff twins.plain).mp decides
    exact nomatch declared.symm.trans found

theorem exported?_of_class (twins : DefaultTwins name space)
    (isClass : twins.byName.kind.IsClassDeclaration) :
    twins.byDefault.exported? = some (.classLike twins.byDefault.site) ∧
      twins.byName.exported? = some (.classLike twins.byName.site) := by
  have sameKind := twins.sameKind
  have named := twins.named
  rw [DeclaringExport.exported?_of_isDefault twins.default, twins.exported?_byName,
    ModuleGraph.declaredBy?]
  unfold Kind.IsClassDeclaration DeclaringExport.kind at *
  rcases isClass with kind | kind <;> rw [kind] at sameKind <;>
    simp [ModuleGraph.defaultDeclaration, DeclaringExport.site, kind, sameKind, named]

theorem exported?_of_function (twins : DefaultTwins name space)
    (isFunction : twins.byName.kind.IsFunctionDeclaration) :
    twins.byDefault.exported? =
        some (match space with
          | .value => .function twins.byDefault.site
          | .type => .alias twins.byDefault.site) ∧
      twins.byName.exported? =
        match space with
        | .value => some (.function twins.byName.site)
        | .type => none := by
  have sameKind := twins.sameKind
  have named := twins.named
  rw [DeclaringExport.exported?_of_isDefault twins.default, twins.exported?_byName,
    ModuleGraph.declaredBy?]
  unfold Kind.IsFunctionDeclaration DeclaringExport.kind at *
  rcases isFunction with kind | kind | kind <;> rw [kind] at sameKind <;> cases space <;>
    simp [ModuleGraph.defaultDeclaration, Tree.isFunction, DeclaringExport.site, kind, sameKind,
      named]

theorem exported?_of_interface (twins : DefaultTwins name space)
    (isInterface : twins.byName.kind = .interfaceDeclaration) :
    twins.byDefault.exported? =
        some (match space with
          | .value => .expression twins.byDefault.site
          | .type => .alias twins.byDefault.site) ∧
      twins.byName.exported? =
        match space with
        | .value => none
        | .type => some (.interface twins.byName.site) := by
  have sameKind := twins.sameKind
  have named := twins.named
  rw [DeclaringExport.exported?_of_isDefault twins.default, twins.exported?_byName,
    ModuleGraph.declaredBy?]
  rw [isInterface] at sameKind
  unfold DeclaringExport.kind at *
  cases space <;>
    simp [ModuleGraph.defaultDeclaration, Tree.isFunction, DeclaringExport.site, isInterface,
      sameKind, named]

/-- **Default exports.** A default export of a declaration exports what an export under its name
does exactly for classes, and for functions as values. -/
theorem agree_iff (twins : DefaultTwins name space) :
    twins.Agree ↔
      twins.byName.kind.IsClassDeclaration ∨
        space = .value ∧ twins.byName.kind.IsFunctionDeclaration := by
  rw [Agree]
  rcases twins.mayBeDefault with isClass | isFunction | isInterface
  · obtain ⟨byDefault, byName⟩ := twins.exported?_of_class isClass
    rw [byDefault, byName]
    exact ⟨fun _ => Or.inl isClass, fun _ => .some .classLike⟩
  · have noClass : ¬ twins.byName.kind.IsClassDeclaration := by
      unfold Kind.IsFunctionDeclaration Kind.IsClassDeclaration at *
      rcases isFunction with kind | kind | kind <;> simp [kind]
    obtain ⟨byDefault, byName⟩ := twins.exported?_of_function isFunction
    rw [byDefault, byName]
    cases space with
    | value => exact ⟨fun _ => Or.inr ⟨rfl, isFunction⟩, fun _ => .some .function⟩
    | type => simp [noClass]
  · obtain ⟨byDefault, byName⟩ := twins.exported?_of_interface isInterface
    have neither : ¬ (twins.byName.kind.IsClassDeclaration ∨
        space = .value ∧ twins.byName.kind.IsFunctionDeclaration) := by
      simp [isInterface, Kind.IsClassDeclaration, Kind.IsFunctionDeclaration]
    rw [byDefault, byName, iff_false_right neither]
    cases space with
    | value => simp
    | type => exact fun agree => by cases agree with | some same => cases same

def defaultInterfaceNodes : Array Node :=
  #[⟨.program, true, none, 0, 31, none⟩, ⟨.exportStatement, true, none, 0, 31, some 0⟩,
    ⟨.other "export", false, none, 0, 6, some 1⟩, ⟨.defaultWord, false, none, 7, 14, some 1⟩,
    ⟨.interfaceDeclaration, true, some .declaration, 15, 31, some 1⟩,
    ⟨.other "interface", false, none, 15, 24, some 4⟩,
    ⟨.typeIdentifier, true, some .name, 25, 28, some 4⟩,
    ⟨.interfaceBody, true, some .body, 29, 31, some 4⟩,
    ⟨.other "\x7b", false, none, 29, 30, some 7⟩, ⟨.other "\x7d", false, none, 30, 31, some 7⟩]

def namedInterfaceNodes : Array Node :=
  #[⟨.program, true, none, 0, 23, none⟩, ⟨.exportStatement, true, none, 0, 23, some 0⟩,
    ⟨.other "export", false, none, 0, 6, some 1⟩,
    ⟨.interfaceDeclaration, true, some .declaration, 7, 23, some 1⟩,
    ⟨.other "interface", false, none, 7, 16, some 3⟩,
    ⟨.typeIdentifier, true, some .name, 17, 20, some 3⟩,
    ⟨.interfaceBody, true, some .body, 21, 23, some 3⟩,
    ⟨.other "\x7b", false, none, 21, 22, some 6⟩, ⟨.other "\x7d", false, none, 22, 23, some 6⟩]

/-- Two modules with one interface, of which the first exports it by default. -/
def interfaceModules : ModuleGraph where
  root :=
    { document :=
        { text := "export default interface Api \x7b\x7d"
          tree :=
            { nodes := defaultInterfaceNodes
              ends := Tree.endsOf defaultInterfaceNodes
              nonempty := by decide +kernel
              ends_size := by decide +kernel
              nested := by decide +kernel } }
      path? := some ⟨"default.ts"⟩
      dialect := .typeScript }
  imports := #[
    { document :=
        { text := "export interface Api \x7b\x7d"
          tree :=
            { nodes := namedInterfaceNodes
              ends := Tree.endsOf namedInterfaceNodes
              nonempty := by decide +kernel
              ends_size := by decide +kernel
              nested := by decide +kernel } }
      path? := some ⟨"named.ts"⟩
      dialect := .typeScript }]
  links := []

def defaultInterface : DeclaringExport "default" .type where
  graph := interfaceModules
  module := 0
  statement := 1
  declaration := 4
  before := []
  after := []
  order := by decide +kernel
  first := by simp
  declares := by decide +kernel

def namedInterface : DeclaringExport "Api" .type where
  graph := interfaceModules
  module := 1
  statement := 1
  declaration := 3
  before := []
  after := []
  order := by decide +kernel
  first := by simp
  declares := by decide +kernel

theorem namedInterface_plain : ¬ namedInterface.IsDefault :=
  show ¬ (_ : Bool) = true by decide +kernel

def interfaceTwins : DefaultTwins "Api" .type where
  byDefault := defaultInterface
  byName := namedInterface
  default := show (_ : Bool) = true by decide +kernel
  plain := namedInterface_plain
  named := by decide +kernel
  sameKind := by decide +kernel
  mayBeDefault := Or.inr (Or.inr (by decide +kernel))
  only := fun silent => absurd
    ((DeclaringExport.decides_iff namedInterface_plain).mpr
      ⟨.interface { node := 3, module := 1 }, by decide +kernel, rfl⟩) (silent _)

/-- As a type, `export default interface Api {}` exports an alias, and `export interface Api {}` the
interface. -/
theorem not_agree_interface :
    interfaceTwins.byDefault.exported? = some (.alias { node := 4, module := 0 }) ∧
      interfaceTwins.byName.exported? = some (.interface { node := 3, module := 1 }) ∧
      ¬ interfaceTwins.Agree := by
  have byDefault : interfaceTwins.byDefault.exported? =
      some (.alias { node := 4, module := 0 }) := by decide +kernel
  have byName : interfaceTwins.byName.exported? =
      some (.interface { node := 3, module := 1 }) := by decide +kernel
  refine ⟨byDefault, byName, fun agree => ?_⟩
  rw [Agree, byDefault, byName] at agree
  cases agree with | some same => cases same

end DefaultTwins

end PromiseDetection

import PromiseDetection.Modules.Export
import PromiseDetection.Proofs.Modules.BreadthFirst
import PromiseDetection.Proofs.Modules.Nearest

/-!
Which modules a look-up leads into.

A name leads to declarations of its own module, and from there only along links. So look-ups that
begin in some modules stay there, if the links of these modules lead back into them. In a graph that
was built all links lead to modules of the graph.
-/

namespace PromiseDetection

/-- Do aliases and imports lead into these modules only? -/
def Declaration.LeadsInto (modules : List Nat) : Declaration → Prop
  | .alias place => place.module ∈ modules
  | .imported (some module) _ _ => module ∈ modules
  | _ => True

def ExportDecision.LeadsInto (modules : List Nat) : ExportDecision → Prop
  | .here declaration? => ∀ declaration, declaration? = some declaration →
      declaration.LeadsInto modules
  | .elsewhere target _ => target ∈ modules

namespace ModuleGraph

/-- The specifiers of the modules lead back into the modules. -/
def IsClosed (graph : ModuleGraph) (modules : List Nat) : Prop :=
  ∀ ⦃module specifier target⦄, module ∈ modules →
    graph.target? module specifier = some target → target ∈ modules

def LinksWithin (graph : ModuleGraph) : Prop :=
  ∀ ⦃module specifier target⦄, graph.target? module specifier = some target → target < graph.size

variable {graph : ModuleGraph} {modules : List Nat} {module statement : Nat} {name : String}
  {space : NameSpace} {place : Site} {declaration : Declaration}

theorem leadsInto_imported (closed : graph.IsClosed modules) (inside : module ∈ modules)
    {specifier : String} {part : ImportedPart} :
    (Declaration.imported (graph.target? module specifier) specifier part).LeadsInto modules := by
  cases led : graph.target? module specifier with
  | none => trivial
  | some target => exact closed inside led

theorem IsOwn.leadsInto (own : graph.IsOwn module declaration) (closed : graph.IsClosed modules)
    (inside : module ∈ modules) : declaration.LeadsInto modules := by
  cases declaration with
  | «alias» place =>
    have here : place.module = module := own
    rw [← here] at inside
    exact inside
  | imported module? specifier part =>
    cases own
    exact leadsInto_imported closed inside
  | _ => trivial

theorem leadsInto_valueNamed (closed : graph.IsClosed modules) (inside : place.module ∈ modules)
    (found : graph.valueNamed name place = .ok declaration) : declaration.LeadsInto modules := by
  unfold valueNamed at found
  repeat' split at found
  all_goals cases found
  · exact (isOwn_declarationAt? ‹_›).leadsInto closed inside
  all_goals trivial

theorem leadsInto_typeNamed (closed : graph.IsClosed modules) (inside : place.module ∈ modules)
    (found : graph.typeNamed name place = .ok declaration) : declaration.LeadsInto modules := by
  unfold typeNamed at found
  repeat' split at found
  all_goals cases found
  · exact (isOwn_declarationAt? ‹_›).leadsInto closed inside
  · trivial

theorem leadsInto_defaultDeclaration (inside : module ∈ modules) :
    (graph.defaultDeclaration module space statement).LeadsInto modules := by
  unfold defaultDeclaration
  dsimp only
  split
  any_goals trivial
  split <;> trivial

theorem leadsInto_clauseDecides? (closed : graph.IsClosed modules) (inside : module ∈ modules)
    {source? : Option String} {clause : Nat} {decision : ExportDecision}
    (found : graph.clauseDecides? module name space source? clause = some decision) :
    decision.LeadsInto modules := by
  simp only [clauseDecides?, Option.bind_eq_bind, Option.bind_eq_some_iff] at found
  obtain ⟨own, _, decides⟩ := found
  split at decides
  · cases decides
    exact fun declaration declared => (isOwn_declarationAt? declared).leadsInto closed inside
  · split at decides
    · cases decides
      exact fun declaration declared => nomatch declared
    · next led =>
      cases decides
      exact closed inside led

theorem leadsInto_exportDecides? (closed : graph.IsClosed modules) (inside : module ∈ modules)
    {decision : ExportDecision}
    (found : graph.exportDecides? module name space statement = some decision) :
    decision.LeadsInto modules := by
  unfold exportDecides? at found
  dsimp only at found
  split at found
  · split at found
    · cases found
      rintro declaration ⟨⟩
      exact leadsInto_defaultDeclaration inside
    · obtain ⟨known, declares, rfl⟩ := Option.map_eq_some_iff.mp found
      rintro declaration ⟨⟩
      exact (isOwn_declaredBy? declares).leadsInto closed inside
  · split at found
    · cases found
      rintro declaration ⟨⟩
      trivial
    · split at found
      · simp only [Option.bind_eq_bind, Option.bind_eq_some_iff] at found
        obtain ⟨specifier, _, _, _, exported⟩ := found
        split at exported <;> cases exported
        rintro declaration ⟨⟩
        exact leadsInto_imported closed inside
      · simp only [Option.bind_eq_bind, Option.bind_eq_some_iff] at found
        obtain ⟨clause, _, decides⟩ := found
        exact leadsInto_clauseDecides? closed inside decides

theorem leadsInto_searchExport? (closed : graph.IsClosed modules) (inside : module ∈ modules)
    {visits : Nat} (found : graph.searchExport? space visits module name = some declaration) :
    declaration.LeadsInto modules := by
  induction visits generalizing module name with
  | zero => cases found
  | succ visits inductionHypothesis =>
    simp only [searchExport?] at found
    split at found
    · next decided =>
      obtain ⟨statement, _, decides⟩ := List.exists_of_findSome?_eq_some decided
      exact leadsInto_exportDecides? closed inside decides declaration found
    · next decided =>
      obtain ⟨statement, _, decides⟩ := List.exists_of_findSome?_eq_some decided
      exact inductionHypothesis (leadsInto_exportDecides? closed inside decides) found
    · obtain ⟨specifier, _, led⟩ := List.exists_of_findSome?_eq_some found
      obtain ⟨target, leads, further⟩ := Option.bind_eq_some_iff.mp led
      exact inductionHypothesis (closed inside leads) further

theorem leadsInto_exportedType (closed : graph.IsClosed modules) (inside : module ∈ modules)
    (found : graph.exportedType module name = .ok declaration) :
    declaration.LeadsInto modules := by
  unfold exportedType at found
  split at found <;> cases found
  exact leadsInto_searchExport? closed inside ‹_›

theorem linksWithin_of_build {grammar : Grammar} {disk : FileSystem} {unit : SourceUnit}
    (built : build grammar disk unit = .ok graph) : graph.LinksWithin := by
  unfold build at built
  split at built
  · cases built
  · next path named =>
    split at built
    · cases built
    · have begun : Loading.Progress grammar disk unit 0 (fun module _ => module < 0)
        (Loading.start disk unit path) := Loading.progress_start named
      have same : ((List.range moduleLimit).foldl (Loading.visit grammar disk)
          (Loading.start disk unit path)).graph = graph := Except.ok.inj built
      have shape := (begun.run moduleLimit).isImportGraph
      rw [same] at shape
      exact fun _ _ _ leads => (shape.linked leads).2.1

end ModuleGraph

end PromiseDetection

import PromiseDetection.Proofs.Modules.Reexport

/-!
Default exports and named exports.

A default export goes by the name `default` alone, and `export *` leads on under every other name. A
search does not keep to these rules: behind `export *` it goes on looking for `default`, and a
declaration that is exported by default is found under its own name, too. What is found is exported
by the rules exactly where neither of the two makes a difference.
-/

namespace PromiseDetection

namespace ModuleGraph

/-- A statement has a declaration that goes by another name than `default` although it is exported
by default, or by the name `default` although it is not. -/
def Mixes (graph : ModuleGraph) (module : Nat) (name : String) (statement : Nat) : Prop :=
  ((graph.tree module).childWith? statement .declaration).isSome ∧
    ¬ (((graph.tree module).childOfKind? statement .defaultWord).isSome ↔ name = "default")

/-- What a module exports under a name if default exports and named exports are kept apart: what one
of its statements exports without mixing the two, what another module exports that a list of names
leads to, or, under every name but `default`, what a module exports of which it exports all. -/
inductive ExportsApart (graph : ModuleGraph) (space : NameSpace) :
    Nat × String → Declaration → Prop where
  | own {module statement : Nat} {name : String} {declaration : Declaration}
      (inside : statement ∈ graph.exportStatements module)
      (decides : graph.Decides module name space statement (.here (some declaration)))
      (apart : ¬ graph.Mixes module name statement) :
      ExportsApart graph space (module, name) declaration
  | onward {module statement target : Nat} {name own : String} {declaration : Declaration}
      (inside : statement ∈ graph.exportStatements module)
      (decides : graph.Decides module name space statement (.elsewhere target own))
      (exported : ExportsApart graph space (target, own) declaration) :
      ExportsApart graph space (module, name) declaration
  | all {module statement target : Nat} {name specifier : String} {declaration : Declaration}
      (other : name ≠ "default") (inside : statement ∈ graph.exportStatements module)
      (exportsAll : graph.ExportsAllOf module statement specifier)
      (linked : graph.target? module specifier = some target)
      (exported : ExportsApart graph space (target, name) declaration) :
      ExportsApart graph space (module, name) declaration

def NamesDefault (graph : ModuleGraph) (module : Nat) : Prop :=
  ∃ statement ∈ graph.exportStatements module,
    ((graph.tree module).childOfKind? statement .defaultWord).isSome ∨
    (∃ exported, (graph.tree module).childOfKind? statement .namespaceExport = some exported ∧
      ∃ known, (graph.tree module).firstOperand? exported = some known ∧
        (graph.document module).nameOrValue known = "default") ∨
    ∃ clause, (graph.tree module).childOfKind? statement .exportClause = some clause ∧
      ∃ specifier ∈ (graph.tree module).namedChildren clause, ∃ own,
        (graph.document module).SpecifierExports "default" specifier own

/-- Whatever a search finds is exported with default exports and named exports kept apart. -/
def KeepsDefaultsApart (graph : ModuleGraph) (space : NameSpace) : Prop :=
  ∀ module name declaration,
    graph.searchExport? space (reexportLimit + 1) module name = some declaration →
      graph.ExportsApart space (module, name) declaration

def FirstDecides (graph : ModuleGraph) (module : Nat) (name : String) (space : NameSpace)
    (statement : Nat) (decision : ExportDecision) : Prop :=
  ∃ before after, graph.exportStatements module = before ++ statement :: after ∧
    (∀ other ∈ before, ∀ decision, ¬ graph.Decides module name space other decision) ∧
    graph.Decides module name space statement decision

variable {graph : ModuleGraph} {space : NameSpace} {module statement : Nat} {name : String}
  {declaration : Declaration} {decision : ExportDecision}

theorem moduleDecides_iff :
    graph.ModuleDecides module name space decision ↔
      ∃ statement, graph.FirstDecides module name space statement decision := by
  rw [ModuleDecides, firstSays_iff_exists_split, exists_comm]
  rfl

theorem FirstDecides.inside (first : graph.FirstDecides module name space statement decision) :
    statement ∈ graph.exportStatements module := by
  obtain ⟨before, after, order, _⟩ := first
  simp [order]

theorem FirstDecides.decides (first : graph.FirstDecides module name space statement decision) :
    graph.Decides module name space statement decision := by
  obtain ⟨_, _, _, _, decides⟩ := first
  exact decides

theorem exists_moduleDecides (inside : statement ∈ graph.exportStatements module)
    (decides : graph.Decides module name space statement decision) :
    ∃ decided, graph.ModuleDecides module name space decided := by
  have found : ((graph.exportStatements module).findSome?
      (graph.exportDecides? module name space)).isSome :=
    List.findSome?_isSome_iff.mpr
      ⟨statement, inside, by simp [exportDecides?_eq_some_iff.mpr decides]⟩
  obtain ⟨decided, answer⟩ := Option.isSome_iff_exists.mp found
  exact ⟨decided, findSome?_exportDecides?_eq_some_iff.mp answer⟩

theorem not_mixes_of_elsewhere {target : Nat} {own : String}
    (decides : graph.Decides module name space statement (.elsewhere target own)) :
    ¬ graph.Mixes module name statement := by
  cases decides with
  | listed lists =>
    have bare : (graph.tree module).childWith? statement .declaration = none := lists.1.1
    simp [Mixes, bare]

theorem namesDefault_of_decides (inside : statement ∈ graph.exportStatements module)
    (decides : graph.Decides module "default" space statement decision)
    (apart : ¬ graph.Mixes module "default" statement) : graph.NamesDefault module := by
  refine ⟨statement, inside, ?_⟩
  cases decides with
  | byDefault _ default => exact Or.inl default.1
  | byName found =>
    have word := Classical.not_not.mp fun mixed => apart ⟨Option.isSome_of_eq_some found, mixed⟩
    exact Or.inl (word.mpr rfl)
  | value _ default => exact Or.inl default.1
  | wholeModule _ found _ named same => exact Or.inr (Or.inl ⟨_, found, _, named, same⟩)
  | listed lists =>
    obtain ⟨_, _, clause, found, first⟩ := lists
    obtain ⟨before, specifier, after, order, _, exports⟩ := firstSays_iff_exists_split.mp first
    refine Or.inr (Or.inr ⟨clause, found, specifier, ?_, _, exports⟩)
    change specifier ∈ (graph.document module).tree.namedChildren clause
    simp [order]

/-- Where the two are kept apart, a module that exports something under the name `default` has a
default export of its own, or a statement that names it. -/
theorem ExportsApart.namesDefault
    (exported : graph.ExportsApart space (module, "default") declaration) :
    graph.NamesDefault module := by
  cases exported with
  | own inside decides apart => exact namesDefault_of_decides inside decides apart
  | onward inside decides =>
    exact namesDefault_of_decides inside decides (not_mixes_of_elsewhere decides)
  | all other => exact absurd rfl other

theorem isSome_searchExport?_mono {fewer more : Nat} (le : fewer ≤ more)
    (found : (graph.searchExport? space fewer module name).isSome) :
    (graph.searchExport? space more module name).isSome := by
  obtain ⟨declaration, found⟩ := Option.isSome_iff_exists.mp found
  cases fewer with
  | zero => simp [searchExport?] at found
  | succ limit =>
    obtain ⟨rest, rfl⟩ := Nat.exists_eq_add_of_le' le
    obtain ⟨steps, within, last, chain, decided⟩ := findsWithin_of_searchExport? found
    exact chain.isSome_searchExport? (by omega : steps ≤ rest + limit) decided

/-- No module hands `default` on from a module that it exports all of: where it says nothing about
`default` itself, the search finds nothing behind it with the visits that are left. -/
def StarsDropDefault (graph : ModuleGraph) (space : NameSpace) : Prop :=
  ∀ module, (∀ decision, ¬ graph.ModuleDecides module "default" space decision) →
    ∀ statement ∈ graph.exportStatements module, ∀ specifier target,
      graph.ExportsAllOf module statement specifier →
        graph.target? module specifier = some target →
          graph.searchExport? space reexportLimit target "default" = none

/-- Whatever a module exports by a statement that mixes default exports and named exports, it
exports under the same name without mixing them, too. -/
def MixedAreNamed (graph : ModuleGraph) (space : NameSpace) : Prop :=
  ∀ module name statement declaration,
    graph.FirstDecides module name space statement (.here (some declaration)) →
      graph.Mixes module name statement → graph.ExportsApart space (module, name) declaration

/-- What is found is exported with the two kept apart. The induction is on the visits that are
left. -/
theorem exportsApart_of_searchExport? (dropped : graph.StarsDropDefault space)
    (named : graph.MixedAreNamed space) {visits : Nat} (within : visits ≤ reexportLimit + 1)
    (found : graph.searchExport? space visits module name = some declaration) :
    graph.ExportsApart space (module, name) declaration := by
  induction visits generalizing module name with
  | zero => simp [searchExport?] at found
  | succ visits inductionHypothesis =>
    rcases searchExport?_succ found with decided | ⟨target, own, leads, deeper⟩
    · obtain ⟨statement, first⟩ := moduleDecides_iff.mp decided
      by_cases mixes : graph.Mixes module name statement
      · exact named module name statement declaration first mixes
      · exact .own first.inside first.decides mixes
    · have exported := inductionHypothesis (by omega) deeper
      cases leads with
      | named decided =>
        obtain ⟨statement, first⟩ := moduleDecides_iff.mp decided
        exact .onward first.inside first.decides exported
      | all undecided inside exportsAll linked =>
        refine .all ?_ inside exportsAll linked exported
        rintro rfl
        have more := isSome_searchExport?_mono (by omega : visits ≤ reexportLimit)
          (Option.isSome_of_eq_some deeper)
        simp [dropped module undecided _ inside _ _ exportsAll linked] at more

/-- What is found behind an `export *` under the name `default` is not exported by the rules. -/
theorem KeepsDefaultsApart.starsDropDefault (keeps : graph.KeepsDefaultsApart space) :
    graph.StarsDropDefault space := by
  intro module undecided statement inside specifier target exportsAll linked
  rw [← Option.not_isSome_iff_eq_none]
  intro found
  have leads : graph.Reexports space (module, "default") (target, "default") :=
    .all undecided inside exportsAll linked
  obtain ⟨declaration, found⟩ := Option.isSome_iff_exists.mp (leads.isSome_searchExport? found)
  -- Without the `export *`, one of the statements would have to decide.
  have silent {statement : Nat} {decision : ExportDecision}
      (inside : statement ∈ graph.exportStatements module) :
      ¬ graph.Decides module "default" space statement decision := fun decides => by
    obtain ⟨decided, told⟩ := exists_moduleDecides inside decides
    exact undecided decided told
  cases keeps module "default" declaration found with
  | own inside decides => exact silent inside decides
  | onward inside decides => exact silent inside decides
  | all other => exact other rfl

theorem KeepsDefaultsApart.mixedAreNamed (keeps : graph.KeepsDefaultsApart space) :
    graph.MixedAreNamed space := by
  intro module name statement declaration first _
  have decided : graph.ModuleDecides module name space (.here (some declaration)) :=
    moduleDecides_iff.mpr ⟨statement, first⟩
  exact keeps module name declaration (searchExport?_of_moduleDecides decided)

/-- **Default exports and named exports.** A search keeps the two apart exactly if no module hands
`default` on from a module that it exports all of, and whatever is found by a statement that mixes
the two is exported without mixing them as well. Kept apart, `default` is exported only by a module
that has a default export or names one. -/
theorem keepsDefaultsApart_iff (graph : ModuleGraph) (space : NameSpace) :
    (graph.KeepsDefaultsApart space ↔ graph.StarsDropDefault space ∧ graph.MixedAreNamed space) ∧
    ∀ module declaration, graph.ExportsApart space (module, "default") declaration →
      graph.NamesDefault module := by
  refine ⟨⟨fun keeps => ⟨keeps.starsDropDefault, keeps.mixedAreNamed⟩, ?_⟩,
    fun _ _ exported => exported.namesDefault⟩
  rintro ⟨dropped, named⟩ module name declaration found
  exact exportsApart_of_searchExport? dropped named (Nat.le_refl _) found

def barrelNodes : Array Node :=
  #[⟨.program, true, none, 0, 20, none⟩, ⟨.exportStatement, true, none, 0, 20, some 0⟩,
    ⟨.other "export", false, none, 0, 6, some 1⟩, ⟨.star, false, none, 7, 8, some 1⟩,
    ⟨.other "from", false, none, 9, 13, some 1⟩,
    ⟨.stringLiteral, true, some .source, 14, 19, some 1⟩,
    ⟨.other "'", false, none, 14, 15, some 5⟩, ⟨.stringFragment, true, none, 15, 18, some 5⟩,
    ⟨.other "'", false, none, 18, 19, some 5⟩, ⟨.other ";", false, none, 19, 20, some 1⟩]

def defaultFunctionNodes : Array Node :=
  #[⟨.program, true, none, 0, 39, none⟩, ⟨.exportStatement, true, none, 0, 39, some 0⟩,
    ⟨.other "export", false, none, 0, 6, some 1⟩, ⟨.defaultWord, false, none, 7, 14, some 1⟩,
    ⟨.functionDeclaration, true, some .declaration, 15, 39, some 1⟩,
    ⟨.asyncWord, false, none, 15, 20, some 4⟩, ⟨.functionWord, false, none, 21, 29, some 4⟩,
    ⟨.identifier, true, some .name, 30, 34, some 4⟩,
    ⟨.other "formal_parameters", true, some .parameters, 34, 36, some 4⟩,
    ⟨.other "(", false, none, 34, 35, some 8⟩, ⟨.other ")", false, none, 35, 36, some 8⟩,
    ⟨.statementBlock, true, some .body, 37, 39, some 4⟩,
    ⟨.other "\x7b", false, none, 37, 38, some 11⟩, ⟨.other "\x7d", false, none, 38, 39, some 11⟩]

def barrel : ModuleGraph where
  root :=
    { document :=
        { text := "export * from './b';"
          tree :=
            { nodes := barrelNodes
              ends := Tree.endsOf barrelNodes
              nonempty := by decide +kernel
              ends_size := by decide +kernel
              nested := by decide +kernel } }
      path? := some ⟨"a.ts"⟩
      dialect := .typeScript }
  imports := #[
    { document :=
        { text := "export default async function load() \x7b\x7d"
          tree :=
            { nodes := defaultFunctionNodes
              ends := Tree.endsOf defaultFunctionNodes
              nonempty := by decide +kernel
              ends_size := by decide +kernel
              nested := by decide +kernel } }
      path? := some ⟨"b.ts"⟩
      dialect := .typeScript }]
  links := [((0, "./b"), 1)]

/-- The first module exports `default`, which only the second one names, and the second one exports
`load`, which it does not name. -/
theorem not_keepsDefaultsApart_barrel :
    (barrel.searchExport? .value (reexportLimit + 1) 0 "default" =
        some (.function { node := 4, module := 1 }) ∧
      ¬ barrel.NamesDefault 0) ∧
    (barrel.searchExport? .value (reexportLimit + 1) 1 "load" =
        some (.function { node := 4, module := 1 }) ∧
      ¬ barrel.ExportsApart .value (1, "load") (.function { node := 4, module := 1 })) ∧
    ¬ barrel.KeepsDefaultsApart .value := by
  have star : barrel.searchExport? .value (reexportLimit + 1) 0 "default" =
      some (.function { node := 4, module := 1 }) := by decide +kernel
  have unnamed : ¬ barrel.NamesDefault 0 := by
    have only : barrel.exportStatements 0 = [1] := by decide +kernel
    have word : (barrel.tree 0).childOfKind? 1 .defaultWord = none := by decide +kernel
    have exported : (barrel.tree 0).childOfKind? 1 .namespaceExport = none := by decide +kernel
    have clause : (barrel.tree 0).childOfKind? 1 .exportClause = none := by decide +kernel
    simp [NamesDefault, only, word, exported, clause]
  have byName : barrel.searchExport? .value (reexportLimit + 1) 1 "load" =
      some (.function { node := 4, module := 1 }) := by decide +kernel
  have only : barrel.exportStatements 1 = [1] := by decide +kernel
  have declared : (barrel.tree 1).childWith? 1 .declaration = some 4 := by decide +kernel
  have word : ((barrel.tree 1).childOfKind? 1 .defaultWord).isSome := by decide +kernel
  refine ⟨⟨star, unnamed⟩, ⟨byName, fun exported => ?_⟩,
    fun keeps => unnamed (keeps 0 "default" _ star).namesDefault⟩
  cases exported with
  | own inside _ apart =>
    rw [only, List.mem_singleton] at inside
    subst inside
    exact apart ⟨Option.isSome_of_eq_some declared, by simp [word]⟩
  | onward inside decides =>
    rw [only, List.mem_singleton] at inside
    subst inside
    cases decides with
    | listed lists => exact nomatch declared.symm.trans lists.1.1
  | all _ inside exportsAll =>
    rw [only, List.mem_singleton] at inside
    subst inside
    exact nomatch declared.symm.trans exportsAll.1

end ModuleGraph

end PromiseDetection

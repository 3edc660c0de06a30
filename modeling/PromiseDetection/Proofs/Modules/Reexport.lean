import PromiseDetection.Modules.Export

/-!
Following re-exports.

What a module exports under a name is decided by the first of its export statements that has
something to say about the name. It may export something of its own, or lead on to another module
under another name. Where no statement decides, each `export *` leads on under the same name. These
are the steps of a search, and modules may well lead on to each other in circles. The search keeps
no record of where it has been, and finds something exactly if a chain of at most eight steps leads
to a module that exports something of its own.
-/

namespace PromiseDetection

/-- What the first item of a list tells that tells anything. -/
inductive FirstSays {α β : Type} (tells : α → β → Prop) : List α → β → Prop where
  | here {item : α} {rest : List α} {told : β} (speaks : tells item told) :
      FirstSays tells (item :: rest) told
  | later {item : α} {rest : List α} {told : β} (silent : ∀ other, ¬ tells item other)
      (onward : FirstSays tells rest told) : FirstSays tells (item :: rest) told

theorem FirstSays.of_silent {α β : Type} {tells : α → β → Prop} {before after : List α} {item : α}
    {told : β} (silent : ∀ other ∈ before, ∀ told, ¬ tells other told) (speaks : tells item told) :
    FirstSays tells (before ++ item :: after) told := by
  induction before with
  | nil => exact .here speaks
  | cons other before inductionHypothesis =>
    exact .later (silent other List.mem_cons_self)
      (inductionHypothesis fun other inside => silent other (List.mem_cons_of_mem _ inside))

theorem firstSays_iff_exists_split {α β : Type} {tells : α → β → Prop} {items : List α} {told : β} :
    FirstSays tells items told ↔ ∃ before item after, items = before ++ item :: after ∧
      (∀ other ∈ before, ∀ told, ¬ tells other told) ∧ tells item told := by
  constructor
  · intro first
    induction first with
    | @here item rest told speaks => exact ⟨[], item, rest, rfl, by simp, speaks⟩
    | @later other rest told silent _ inductionHypothesis =>
      obtain ⟨before, item, after, rfl, quiet, speaks⟩ := inductionHypothesis
      exact ⟨other :: before, item, after, rfl, List.forall_mem_cons.mpr ⟨silent, quiet⟩, speaks⟩
  · rintro ⟨before, item, after, rfl, quiet, speaks⟩
    exact .of_silent quiet speaks

theorem findSome?_eq_some_iff_firstSays {α β : Type} {tells : α → β → Prop} {answer : α → Option β}
    (answers : ∀ item told, answer item = some told ↔ tells item told) {items : List α} {told : β} :
    items.findSome? answer = some told ↔ FirstSays tells items told := by
  induction items with
  | nil => exact ⟨fun found => by simp at found, fun first => nomatch first⟩
  | cons item rest inductionHypothesis =>
    rw [List.findSome?_cons]
    cases found : answer item with
    | some other =>
      have speaks := (answers item other).mp found
      constructor
      · rintro ⟨⟩
        exact .here speaks
      · rintro (speaksToo | ⟨silent, _⟩)
        · exact found.symm.trans ((answers item told).mpr speaksToo)
        · exact absurd speaks (silent other)
    | none =>
      have silent (other : β) : ¬ tells item other := fun speaks => by
        simp [(answers item other).mpr speaks] at found
      constructor
      · exact fun onward => .later silent (inductionHypothesis.mp onward)
      · rintro (speaks | ⟨_, onward⟩)
        · exact absurd speaks (silent told)
        · exact inductionHypothesis.mpr onward

namespace Document

def SpecifierExports (document : Document) (name : String) (specifier : Nat) (own : String) : Prop :=
  document.tree.kind specifier = .exportSpecifier ∧
    ∃ written, document.tree.childWith? specifier .name = some written ∧
      document.nameOrValue ((document.tree.childWith? specifier .alias).getD written) = name ∧
      document.nameOrValue written = own

def ExportsByDefault (document : Document) (name : String) (statement : Nat) : Prop :=
  (document.tree.childOfKind? statement .defaultWord).isSome ∧ name = "default"

instance (document : Document) (name : String) (statement : Nat) :
    Decidable (document.ExportsByDefault name statement) :=
  inferInstanceAs (Decidable (_ ∧ _))

def ExportsNames (document : Document) (name : String) (space : NameSpace) (statement : Nat) : Prop :=
  document.tree.childWith? statement .declaration = none ∧
    ¬ (document.ExportsByDefault name statement ∧ space = .value ∧
      (document.tree.childWith? statement .value).isSome)

/-- A statement has a list of names whose first specifier for a name exports this under it. -/
def ListsName (document : Document) (name : String) (space : NameSpace) (statement : Nat)
    (own : String) : Prop :=
  document.ExportsNames name space statement ∧
    document.tree.childOfKind? statement .namespaceExport = none ∧
    ∃ clause, document.tree.childOfKind? statement .exportClause = some clause ∧
      FirstSays (document.SpecifierExports name) (document.tree.namedChildren clause) own

end Document

namespace ModuleGraph

/-- What a name in a list of exports stands for: what the module itself declares under it, or the
name of another module if the list is taken from one. A list that is taken from nowhere stands for
nothing. -/
inductive StandsFor (graph : ModuleGraph) (module : Nat) (space : NameSpace) (own : String) :
    (source? : Option String) → ExportDecision → Prop where
  | ofModule :
      StandsFor graph module space own none
        (.here (graph.declarationAt? module own space (graph.tree module).root))
  | astray {specifier : String} (lost : graph.target? module specifier = none) :
      StandsFor graph module space own (some specifier) (.here none)
  | onward {specifier : String} {target : Nat}
      (linked : graph.target? module specifier = some target) :
      StandsFor graph module space own (some specifier) (.elsewhere target own)

/-- What an export statement says about a name: that it stands for a declaration of the module, for
nothing, or for another name of another module. -/
inductive Decides (graph : ModuleGraph) (module : Nat) (name : String) (space : NameSpace)
    (statement : Nat) : ExportDecision → Prop where
  | byDefault {declaration : Nat}
      (found : (graph.tree module).childWith? statement .declaration = some declaration)
      (default : (graph.document module).ExportsByDefault name statement) :
      Decides graph module name space statement
        (.here (some (graph.defaultDeclaration module space declaration)))
  | byName {declaration : Nat} {known : Declaration}
      (found : (graph.tree module).childWith? statement .declaration = some declaration)
      (plain : ¬ (graph.document module).ExportsByDefault name statement)
      (declared : graph.declaredBy? module name space declaration = some known) :
      Decides graph module name space statement (.here (some known))
  | value {value : Nat}
      (bare : (graph.tree module).childWith? statement .declaration = none)
      (default : (graph.document module).ExportsByDefault name statement) (isValue : space = .value)
      (found : (graph.tree module).childWith? statement .value = some value) :
      Decides graph module name space statement (.here (some (.expression { node := value, module })))
  | wholeModule {exported known : Nat} {specifier : String}
      (names : (graph.document module).ExportsNames name space statement)
      (found : (graph.tree module).childOfKind? statement .namespaceExport = some exported)
      (source : graph.exportSource? module statement = some specifier)
      (named : (graph.tree module).firstOperand? exported = some known)
      (same : (graph.document module).nameOrValue known = name) :
      Decides graph module name space statement
        (.here (some (.imported (graph.target? module specifier) specifier .wholeModule)))
  | listed {own : String} {decision : ExportDecision}
      (listed : (graph.document module).ListsName name space statement own)
      (stands : graph.StandsFor module space own (graph.exportSource? module statement) decision) :
      Decides graph module name space statement decision

/-- What a module says about a name, by the first of its export statements that says anything. -/
def ModuleDecides (graph : ModuleGraph) (module : Nat) (name : String) (space : NameSpace)
    (decision : ExportDecision) : Prop :=
  FirstSays (graph.Decides module name space) (graph.exportStatements module) decision

def ExportsAllOf (graph : ModuleGraph) (module statement : Nat) (specifier : String) : Prop :=
  (graph.tree module).childWith? statement .declaration = none ∧
    (graph.tree module).childOfKind? statement .namespaceExport = none ∧
    (graph.tree module).childOfKind? statement .exportClause = none ∧
    graph.exportSource? module statement = some specifier

inductive Reexports (graph : ModuleGraph) (space : NameSpace) : Nat × String → Nat × String → Prop where
  | named {module target : Nat} {name own : String}
      (decided : graph.ModuleDecides module name space (.elsewhere target own)) :
      Reexports graph space (module, name) (target, own)
  | all {module statement target : Nat} {name specifier : String}
      (undecided : ∀ decision, ¬ graph.ModuleDecides module name space decision)
      (inside : statement ∈ graph.exportStatements module)
      (exportsAll : graph.ExportsAllOf module statement specifier)
      (linked : graph.target? module specifier = some target) :
      Reexports graph space (module, name) (target, name)

/-- A number of re-exports that lead from a name of a module to a name of another one. -/
inductive ReexportedIn (graph : ModuleGraph) (space : NameSpace) :
    (steps : Nat) → Nat × String → Nat × String → Prop where
  | here (place : Nat × String) : ReexportedIn graph space 0 place place
  | step {steps : Nat} {place next last : Nat × String} (first : graph.Reexports space place next)
      (onward : ReexportedIn graph space steps next last) :
      ReexportedIn graph space (steps + 1) place last

variable {graph : ModuleGraph} {module statement clause : Nat} {name own : String}
  {space : NameSpace} {decision : ExportDecision} {declaration : Declaration}

theorem standsFor_iff {source? : Option String} :
    graph.StandsFor module space own source? decision ↔
      decision =
        match source? with
        | none => .here (graph.declarationAt? module own space (graph.tree module).root)
        | some specifier =>
          match graph.target? module specifier with
          | none => .here none
          | some target => .elsewhere target own := by
  constructor
  · intro stands
    cases stands with
    | ofModule => rfl
    | astray lost => simp [lost]
    | onward linked => simp [linked]
  · rintro rfl
    cases source? with
    | none => exact .ofModule
    | some specifier =>
      cases linked : graph.target? module specifier with
      | none => simpa only [linked] using StandsFor.astray linked
      | some target => simpa only [linked] using StandsFor.onward linked

theorem clauseDecides?_eq_some_iff {source? : Option String} :
    graph.clauseDecides? module name space source? clause = some decision ↔
      ∃ own, FirstSays ((graph.document module).SpecifierExports name)
          ((graph.tree module).namedChildren clause) own ∧
        graph.StandsFor module space own source? decision := by
  unfold clauseDecides?
  rw [Option.bind_eq_bind, Option.bind_eq_some_iff]
  refine exists_congr fun own => and_congr ?_ ?_
  · refine findSome?_eq_some_iff_firstSays fun specifier said => ?_
    have same : (graph.document module).tree = graph.tree module := rfl
    rw [Document.SpecifierExports, same]
    split
    · next kind => simp [kind, Option.bind_eq_some_iff]
    · next other => simp [other]
  · rw [standsFor_iff]
    cases source? with
    | none => simp [eq_comm]
    | some specifier =>
      cases linked : graph.target? module specifier <;> simp [linked, eq_comm]

theorem exportDecides?_of_exportsNames
    (names : (graph.document module).ExportsNames name space statement) :
    graph.exportDecides? module name space statement =
      match (graph.tree module).childOfKind? statement .namespaceExport with
      | some exported => do
        let specifier ← graph.exportSource? module statement
        let known ← (graph.tree module).firstOperand? exported
        if (graph.document module).nameOrValue known = name then
          some (.here (some (.imported (graph.target? module specifier) specifier .wholeModule)))
        else none
      | none =>
        ((graph.tree module).childOfKind? statement .exportClause).bind
          (graph.clauseDecides? module name space (graph.exportSource? module statement)) := by
  obtain ⟨bare, noValue⟩ := names
  have same : (graph.document module).tree = graph.tree module := rfl
  rw [same] at bare noValue
  have noDefault : (if ((graph.tree module).childOfKind? statement .defaultWord).isSome ∧
      name = "default" ∧ space = .value then (graph.tree module).childWith? statement .value
      else none) = none := by
    split
    · next default =>
      rw [← Option.not_isSome_iff_eq_none]
      exact fun found => noValue ⟨⟨default.1, default.2.1⟩, default.2.2, found⟩
    · rfl
  unfold exportDecides?
  simp only [bare]
  rw [noDefault]
  rfl

theorem exportDecides?_eq_some_iff :
    graph.exportDecides? module name space statement = some decision ↔
      graph.Decides module name space statement decision := by
  have same : (graph.document module).tree = graph.tree module := rfl
  constructor
  · intro decided
    cases found : (graph.tree module).childWith? statement .declaration with
    | some declaration =>
      simp only [exportDecides?, found] at decided
      split at decided
      · next default =>
        cases decided
        exact .byDefault found default
      · next plain =>
        obtain ⟨known, declared, rfl⟩ := Option.map_eq_some_iff.mp decided
        exact .byName found plain declared
    | none =>
      by_cases default : (graph.document module).ExportsByDefault name statement ∧ space = .value ∧
          ((graph.tree module).childWith? statement .value).isSome
      · obtain ⟨byDefault, isValue, hasValue⟩ := default
        obtain ⟨value, valued⟩ := Option.isSome_iff_exists.mp hasValue
        have isDefault : ((graph.tree module).childOfKind? statement .defaultWord).isSome ∧
            name = "default" ∧ space = .value := ⟨byDefault.1, byDefault.2, isValue⟩
        simp only [exportDecides?, found, if_pos isDefault, valued, Option.some.injEq] at decided
        cases decided
        exact .value found byDefault isValue valued
      · have names : (graph.document module).ExportsNames name space statement := ⟨found, default⟩
        rw [exportDecides?_of_exportsNames names] at decided
        split at decided
        · next exported namespace' =>
          obtain ⟨specifier, source, known, named, decided⟩ := by
            simpa [Option.bind_eq_some_iff] using decided
          obtain ⟨text, rfl⟩ := decided
          exact .wholeModule names namespace' source named text
        · next noNamespace =>
          obtain ⟨clause, listed, decided⟩ := Option.bind_eq_some_iff.mp decided
          obtain ⟨own, first, decided⟩ := clauseDecides?_eq_some_iff.mp decided
          exact .listed ⟨names, noNamespace, clause, listed, first⟩ decided
  · intro decides
    cases decides with
    | @byDefault declaration found default =>
      have isDefault : ((graph.tree module).childOfKind? statement .defaultWord).isSome ∧
          name = "default" := default
      simp only [exportDecides?, found, if_pos isDefault]
    | @byName declaration known found plain declared =>
      have notDefault : ¬ (((graph.tree module).childOfKind? statement .defaultWord).isSome ∧
          name = "default") := plain
      simp only [exportDecides?, found, if_neg notDefault, declared, Option.map_some]
    | @value value bare default isValue found =>
      have isDefault : ((graph.tree module).childOfKind? statement .defaultWord).isSome ∧
          name = "default" ∧ space = .value := ⟨default.1, default.2, isValue⟩
      simp only [exportDecides?, bare, if_pos isDefault, found]
    | @wholeModule exported known specifier names found source named text =>
      rw [exportDecides?_of_exportsNames names]
      simp [found, source, named, text]
    | listed lists stands =>
      obtain ⟨names, noNamespace, clause, found, first⟩ := lists
      rw [same] at noNamespace found
      simp only [exportDecides?_of_exportsNames names, noNamespace, found, Option.bind_some]
      exact clauseDecides?_eq_some_iff.mpr ⟨_, first, stands⟩

theorem findSome?_exportDecides?_eq_some_iff :
    (graph.exportStatements module).findSome? (graph.exportDecides? module name space) =
        some decision ↔
      graph.ModuleDecides module name space decision :=
  findSome?_eq_some_iff_firstSays fun _ _ => exportDecides?_eq_some_iff

theorem starSource?_eq_some_iff {specifier : String} :
    graph.starSource? module statement = some specifier ↔
      graph.ExportsAllOf module statement specifier := by
  simp [starSource?, ExportsAllOf, and_assoc]

theorem searchExport?_of_moduleDecides {visits : Nat}
    (decided : graph.ModuleDecides module name space decision) :
    graph.searchExport? space (visits + 1) module name =
      match decision with
      | .here declaration? => declaration?
      | .elsewhere target own => graph.searchExport? space visits target own := by
  rw [searchExport?, findSome?_exportDecides?_eq_some_iff.mpr decided]
  cases decision <;> rfl

theorem searchExport?_of_undecided {visits : Nat}
    (undecided : ∀ decision, ¬ graph.ModuleDecides module name space decision) :
    graph.searchExport? space (visits + 1) module name =
      ((graph.exportStatements module).filterMap (graph.starSource? module)).findSome?
        fun specifier => (graph.target? module specifier).bind fun target =>
          graph.searchExport? space visits target name := by
  have silent : (graph.exportStatements module).findSome?
      (graph.exportDecides? module name space) = none := by
    rw [Option.eq_none_iff_forall_ne_some]
    exact fun decision found => undecided decision (findSome?_exportDecides?_eq_some_iff.mp found)
  rw [searchExport?, silent]

theorem searchExport?_succ {visits : Nat}
    (found : graph.searchExport? space (visits + 1) module name = some declaration) :
    graph.ModuleDecides module name space (.here (some declaration)) ∨
      ∃ target own, graph.Reexports space (module, name) (target, own) ∧
        graph.searchExport? space visits target own = some declaration := by
  by_cases undecided : ∀ decision, ¬ graph.ModuleDecides module name space decision
  · rw [searchExport?_of_undecided undecided] at found
    obtain ⟨specifier, listed, onward⟩ := List.exists_of_findSome?_eq_some found
    obtain ⟨statement, inside, source⟩ := List.mem_filterMap.mp listed
    obtain ⟨target, linked, deeper⟩ := Option.bind_eq_some_iff.mp onward
    exact Or.inr ⟨target, name, .all undecided inside (starSource?_eq_some_iff.mp source) linked,
      deeper⟩
  · obtain ⟨decision, decided⟩ := Classical.not_forall_not.mp undecided
    rw [searchExport?_of_moduleDecides decided] at found
    cases decision with
    | here declaration? => exact Or.inl (found ▸ decided)
    | elsewhere target own => exact Or.inr ⟨target, own, .named decided, found⟩

theorem Reexports.isSome_searchExport? {visits : Nat} {place next : Nat × String}
    (leads : graph.Reexports space place next)
    (found : (graph.searchExport? space visits next.1 next.2).isSome) :
    (graph.searchExport? space (visits + 1) place.1 place.2).isSome := by
  cases leads with
  | named decided => rwa [searchExport?_of_moduleDecides decided]
  | all undecided inside exportsAll linked =>
    rw [searchExport?_of_undecided undecided, List.findSome?_isSome_iff]
    refine ⟨_, List.mem_filterMap.mpr ⟨_, inside, starSource?_eq_some_iff.mpr exportsAll⟩, ?_⟩
    simpa [linked] using found

/-- A module and a name that some chain of re-exports leads to, where the module has something of
its own. -/
def FindsWithin (graph : ModuleGraph) (space : NameSpace) (limit : Nat) (place : Nat × String)
    (declaration : Declaration) : Prop :=
  ∃ steps ≤ limit, ∃ last : Nat × String, graph.ReexportedIn space steps place last ∧
    graph.ModuleDecides last.1 last.2 space (.here (some declaration))

/-- What is found stands at the end of a chain. The induction is on the visits that are left. -/
theorem findsWithin_of_searchExport? {limit : Nat}
    (found : graph.searchExport? space (limit + 1) module name = some declaration) :
    graph.FindsWithin space limit (module, name) declaration := by
  induction limit generalizing module name with
  | zero =>
    rcases searchExport?_succ found with own | ⟨target, own, _, deeper⟩
    · exact ⟨0, Nat.le_refl 0, _, .here _, own⟩
    · simp [searchExport?] at deeper
  | succ limit inductionHypothesis =>
    rcases searchExport?_succ found with own | ⟨target, own, leads, deeper⟩
    · exact ⟨0, Nat.zero_le _, _, .here _, own⟩
    · obtain ⟨steps, within, last, chain, decided⟩ := inductionHypothesis deeper
      exact ⟨steps + 1, Nat.succ_le_succ within, last, .step leads chain, decided⟩

/-- A search that has visits enough for a chain finds something. The induction is on the chain. -/
theorem ReexportedIn.isSome_searchExport? {steps limit : Nat} {place last : Nat × String}
    (chain : graph.ReexportedIn space steps place last) (within : steps ≤ limit)
    (decided : graph.ModuleDecides last.1 last.2 space (.here (some declaration))) :
    (graph.searchExport? space (limit + 1) place.1 place.2).isSome := by
  induction chain generalizing limit with
  | here place => rw [searchExport?_of_moduleDecides decided]; rfl
  | step leads _ inductionHypothesis =>
    obtain ⟨rest, rfl⟩ := Nat.exists_eq_add_of_le' within
    exact leads.isSome_searchExport?
      (inductionHypothesis (Nat.le_add_left _ _) decided)

/-- **Re-exports.** A search finds something exactly if a chain of at most eight re-exports leads to
a module that has something of its own, on whatever graph, and what it finds is what stands at the
end of such a chain. -/
theorem isSome_searchExport?_iff (graph : ModuleGraph) (space : NameSpace) (module : Nat)
    (name : String) :
    ((graph.searchExport? space (reexportLimit + 1) module name).isSome ↔
      ∃ declaration, graph.FindsWithin space 8 (module, name) declaration) ∧
    ∀ declaration, graph.searchExport? space (reexportLimit + 1) module name = some declaration →
      graph.FindsWithin space 8 (module, name) declaration := by
  refine ⟨⟨fun some => ?_, ?_⟩, fun declaration => findsWithin_of_searchExport?⟩
  · obtain ⟨declaration, found⟩ := Option.isSome_iff_exists.mp some
    exact ⟨declaration, findsWithin_of_searchExport? found⟩
  · rintro ⟨declaration, steps, within, last, chain, decided⟩
    exact chain.isSome_searchExport? within decided

end ModuleGraph

end PromiseDetection

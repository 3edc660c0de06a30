import PromiseDetection.Proofs.Analysis.Separation
import PromiseDetection.Proofs.Registry.Foundation
import PromiseDetection.Proofs.Text.Slice

/-!
Spans without any text.

Where a name is missing, a parser puts a name without any text into the tree, and for an analysis
that is a name like any other. A reported span is the span of a candidate that some pass says yes
to, and a registered function is a candidate that was positive when its name was registered. So an
empty span is reported exactly if a pass says yes to a candidate whose name has no text, and a
function is registered under the empty name exactly if it was positive and its name has no text.
-/

namespace PromiseDetection

namespace Tree

variable {tree : Tree} {position : Nat} {candidate : Candidate}

theorem candidate?_node (stands : tree.candidate? position = some candidate) :
    candidate.node = position := by
  unfold candidate? at stands
  split at stands
  · obtain ⟨_, _, rfl⟩ := Option.map_eq_some_iff.mp stands
    rfl
  · split at stands
    · obtain ⟨_, _, rfl⟩ := Option.map_eq_some_iff.mp stands
      rfl
    · cases stands

theorem lt_size_of_stands (stands : tree.candidate? position = some candidate) :
    position < tree.size := by
  by_contra outside
  have kind : tree.kind position = .other "" := by
    rw [Tree.kind, Array.getElem?_eq_none (Nat.le_of_not_lt outside)]
    rfl
  simp [candidate?, isFunction, kind] at stands

theorem candidate?_of_isFunction (function : tree.isFunction position = true) :
    tree.candidate? position =
      (tree.nameOfFunction? position).map fun name =>
        { kind := .function, node := position, name } := by
  have notCall : tree.kind position ≠ .callExpression := by
    intro call
    simp [isFunction, call] at function
  rw [candidate?, if_neg notCall, if_pos function]

theorem nameOfFunction?_of_declaration
    (declaration : tree.kind position = .functionDeclaration ∨
      tree.kind position = .generatorDeclaration) :
    tree.nameOfFunction? position = tree.childWith? position .name := by
  rcases declaration with kind | kind <;> simp [nameOfFunction?, kind]

theorem nameOfFunction?_of_binder {binding : Binder} {name : Nat}
    (notDeclaration : tree.kind position ≠ .functionDeclaration)
    (notGenerator : tree.kind position ≠ .generatorDeclaration)
    (notMethod : tree.kind position ≠ .methodDefinition)
    (bound : tree.binder? position = some binding) (named : binding.name? = some name) :
    tree.nameOfFunction? position = some name := by
  rw [nameOfFunction?.eq_def]
  split
  · contradiction
  · contradiction
  · contradiction
  · rw [bound, Option.bind_some, named, Option.some_or]

end Tree

namespace Document

variable {document : Document} {registry : Registry} {name : String} {function : Nat}

theorem exists_name_of_entryOfFunction?
    (entry : document.entryOfFunction? function = some (.function name)) :
    ∃ node, document.tree.nameOfFunction? function = some node ∧ document.textOf node = name := by
  unfold entryOfFunction? at entry
  dsimp only at entry
  split at entry
  case h_1 kind =>
    rw [Tree.nameOfFunction?_of_declaration (.inl kind)]
    simpa using entry
  case h_2 kind =>
    rw [Tree.nameOfFunction?_of_declaration (.inr kind)]
    simpa using entry
  case h_3 =>
    simp [Option.bind_eq_some_iff] at entry
  case h_4 notDeclaration notGenerator notMethod =>
    obtain ⟨binding, bound, entry⟩ := Option.bind_eq_some_iff.mp entry
    obtain ⟨node, named, entry⟩ := Option.bind_eq_some_iff.mp entry
    refine ⟨node, Tree.nameOfFunction?_of_binder notDeclaration notGenerator notMethod bound named,
      ?_⟩
    cases kind : binding.kind with
    | «variable» => simpa [kind] using entry
    | field => simp [kind, Option.bind_eq_some_iff] at entry
    | property => simp [kind] at entry
    | member => simp [kind] at entry

theorem memberDefinition?_target {object : String} {element : Nat} {definition : Definition}
    (made : document.memberDefinition? object element = some definition) :
    ∃ member, definition.target = .member object member := by
  unfold memberDefinition? at made
  dsimp only at made
  split at made
  · cases made
    exact ⟨_, rfl⟩
  · obtain ⟨key, _, made⟩ := Option.bind_eq_some_iff.mp made
    obtain ⟨assigned, _, made⟩ := Option.bind_eq_some_iff.mp made
    obtain ⟨member, _, made⟩ := Option.bind_eq_some_iff.mp made
    split at made
    · cases made
      exact ⟨member, rfl⟩
    · split at made
      · cases made
        exact ⟨member, rfl⟩
      · cases made
  · obtain ⟨member, _, made⟩ := Option.bind_eq_some_iff.mp made
    cases made
    exact ⟨member, rfl⟩
  · cases made

theorem candidate?_of_recorded {definition : Definition} (made : definition ∈ document.recorded)
    (target : definition.target = .function name) :
    ∃ position node, document.tree.candidate? position = some ⟨.function, position, node⟩ ∧
      document.textOf node = name ∧ definition.ground = .function position := by
  obtain ⟨position, _, made⟩ := List.mem_flatMap.mp made
  unfold definitionsOfNode at made
  dsimp only at made
  split at made
  · next function =>
    obtain ⟨entry, found, rfl⟩ : ∃ entry, document.entryOfFunction? position = some entry ∧
        { target := entry, ground := .function position } = definition := by
      simpa using made
    cases target
    obtain ⟨node, named, text⟩ := exists_name_of_entryOfFunction? found
    exact ⟨position, node, by rw [Tree.candidate?_of_isFunction function, named]; rfl, text, rfl⟩
  · split at made
    · cases made
    · split at made
      · obtain ⟨element, _, made⟩ := List.mem_filterMap.mp made
        obtain ⟨_, isMember⟩ := memberDefinition?_target made
        cases target.symm.trans isMember
      · cases made

/-- A function was positive, with the entries before, when its name was registered. -/
def Registers (document : Document) (registry : Registry) (candidate : Candidate) : Prop :=
  candidate.kind = .function ∧ document.tree.candidate? candidate.node = some candidate ∧
    ∃ rank, registry.entries[rank]? = some (.function (document.textOf candidate.name)) ∧
      document.candidateVerdict (registry.upTo rank) candidate = true

/-- The registered functions are the candidates that were positive when they were registered. -/
theorem Founded.hasFunction_iff (founded : document.Founded document.recorded registry) :
    registry.hasFunction name = true ↔
      ∃ candidate, document.Registers registry candidate ∧
        document.textOf candidate.name = name := by
  simp only [Registry.hasFunction, Registry.contains, List.contains_iff_mem]
  constructor
  · intro known
    obtain ⟨rank, found⟩ := List.mem_iff_getElem?.mp known
    obtain ⟨definition, made, target, positive⟩ := founded.grounded rank _ found
    obtain ⟨position, node, stands, rfl, ground⟩ := candidate?_of_recorded made target
    rw [Definition.isPositive, ground] at positive
    exact ⟨⟨.function, position, node⟩, ⟨rfl, stands, rank, found, positive⟩, rfl⟩
  · rintro ⟨candidate, ⟨_, _, rank, found, _⟩, rfl⟩
    exact List.mem_of_getElem? found

theorem hasFunction_iff_of_under {flag : Flag}
    (collected : document.collectRegistry.under flag = .ok registry) :
    registry.hasFunction name = true ↔
      ∃ candidate, document.Registers registry candidate ∧
        document.textOf candidate.name = name := by
  obtain ⟨_, undisturbed, reached⟩ := document.exists_collectRegistry
  rw [document.attentive_collectRegistry.under_lowered collected, Except.ok.injEq] at undisturbed
  subst undisturbed
  exact (Founded.of_reaches reached).hasFunction_iff

end Document

namespace SourceUnit

variable {grammar : Grammar} {disk : FileSystem} {unit : SourceUnit} {graph : ModuleGraph}
  {claimed : List Span} {mode : Mode} {flag : Flag} {spans : List Span}

/-- Inference says yes to a candidate when the pass that leaves out the claimed spans comes to
it. -/
def Infers (unit : SourceUnit) (graph : ModuleGraph) (claimed : List Span) (candidate : Candidate) :
    Prop :=
  ∃ before, unit.semanticPassTo? graph claimed candidate.node = some before ∧
    Judge.Accepts (Inference.onGraph graph).candidateVerdict before.2 candidate

/-- A mode says yes to a candidate: by the collected registry, or by inference, which in hybrid mode
leaves out what the registry has settled. -/
inductive Finds (grammar : Grammar) (disk : FileSystem) (unit : SourceUnit) :
    Mode → Candidate → Prop
  | registry {mode : Mode} {registry : Registry} {candidate : Candidate} (reads : mode ≠ .semantic)
      (collected : unit.document.collectRegistry.under .lowered = .ok registry)
      (positive : unit.document.candidateVerdict registry candidate = true) :
      Finds grammar disk unit mode candidate
  | inference {graph : ModuleGraph} {candidate : Candidate}
      (built : ModuleGraph.build grammar disk unit = .ok graph)
      (positive : unit.Infers graph [] candidate) :
      Finds grammar disk unit .semantic candidate
  | rest {graph : ModuleGraph} {claimed : List Span} {candidate : Candidate}
      (built : ModuleGraph.build grammar disk unit = .ok graph)
      (heuristic : unit.heuristicSpans.under .lowered = .ok claimed)
      (positive : unit.Infers graph claimed candidate) :
      Finds grammar disk unit .hybrid candidate

variable {candidate : Candidate} {registry : Registry}

theorem finds_heuristic_iff (collected : unit.document.collectRegistry.Gives registry) :
    unit.Finds grammar disk .heuristic candidate ↔
      unit.document.candidateVerdict registry candidate = true := by
  constructor
  · intro found
    cases found with
    | registry _ collectedToo positive =>
      cases collected.under.symm.trans collectedToo
      exact positive
  · exact fun positive => .registry (by decide) collected.under positive

theorem finds_semantic_iff :
    unit.Finds grammar disk .semantic candidate ↔
      ∃ graph, ModuleGraph.build grammar disk unit = .ok graph ∧
        unit.Infers graph [] candidate := by
  constructor
  · intro found
    cases found with
    | registry reads => exact absurd rfl reads
    | inference built positive => exact ⟨_, built, positive⟩
  · rintro ⟨graph, built, positive⟩
    exact .inference built positive

theorem finds_hybrid_iff (collected : unit.document.collectRegistry.Gives registry)
    (heuristic : unit.heuristicSpans.Gives claimed) :
    unit.Finds grammar disk .hybrid candidate ↔
      unit.document.candidateVerdict registry candidate = true ∨
        ∃ graph, ModuleGraph.build grammar disk unit = .ok graph ∧
          unit.Infers graph claimed candidate := by
  constructor
  · intro found
    cases found with
    | registry _ collectedToo positive =>
      cases collected.under.symm.trans collectedToo
      exact .inl positive
    | rest built heuristicToo positive =>
      cases heuristic.under.symm.trans heuristicToo
      exact .inr ⟨_, built, positive⟩
  · rintro (positive | ⟨graph, built, positive⟩)
    · exact .registry (by decide) collected.under positive
    · exact .rest built heuristic.under positive

theorem mem_heuristicSpans (unit : SourceUnit) :
    ∃ registry heuristic, unit.document.collectRegistry.Gives registry ∧
      unit.heuristicSpans.Gives heuristic ∧
        ∀ span, span ∈ heuristic ↔
          ∃ candidate, unit.tree.CandidateAt candidate.node candidate span ∧
            unit.document.candidateVerdict registry candidate = true := by
  obtain ⟨registry, heuristic, collected, given, _, listed⟩ := unit.gives_heuristicSpans
  refine ⟨registry, heuristic, collected, given, fun span => (listed span).trans ?_⟩
  constructor
  · rintro ⟨position, _, candidate, stands, positive⟩
    obtain rfl := Tree.candidate?_node stands.1
    exact ⟨candidate, stands, positive⟩
  · rintro ⟨candidate, stands, positive⟩
    exact ⟨candidate.node, Tree.lt_size_of_stands stands.1, candidate, stands, positive⟩

theorem mem_semanticSpans (grammar : Grammar) (disk : FileSystem) (unit : SourceUnit)
    (claimed : List Span) :
    (unit.semanticSpans grammar disk claimed).Fails .endless ∨
      ∃ semantic, (unit.semanticSpans grammar disk claimed).Gives semantic ∧
        ∀ span, span ∈ semantic ↔ span ∉ claimed ∧
          ∃ candidate, unit.tree.CandidateAt candidate.node candidate span ∧
            ∃ graph, ModuleGraph.build grammar disk unit = .ok graph ∧
              unit.Infers graph claimed candidate := by
  cases built : ModuleGraph.build grammar disk unit with
  | error error => exact .inr ⟨[], gives_semanticSpans_of_error built, by simp⟩
  | ok graph =>
    cases came : unit.semanticPassTo? graph claimed unit.tree.size with
    | none => exact .inl (semanticSpans_fails built came)
    | some reached =>
      refine .inr ⟨reached.1, gives_semanticSpans built came, fun span => ?_⟩
      rw [mem_passTo came]
      apply and_congr_right
      intro _
      constructor
      · rintro ⟨position, _, candidate, before, stands, cameBefore, accepted⟩
        obtain rfl := Tree.candidate?_node stands.1
        exact ⟨candidate, stands, graph, rfl, before, cameBefore, accepted⟩
      · rintro ⟨candidate, stands, _, same, before, cameBefore, accepted⟩
        cases same
        exact ⟨candidate.node, Tree.lt_size_of_stands stands.1, candidate, before, stands,
          cameBefore, accepted⟩

theorem mem_spans (grammar : Grammar) (disk : FileSystem) (mode : Mode) (unit : SourceUnit) :
    (unit.spans grammar disk mode).Fails .endless ∨
      ∃ spans, (unit.spans grammar disk mode).Gives spans ∧
        ∀ span, span ∈ spans ↔
          ∃ candidate, unit.tree.CandidateAt candidate.node candidate span ∧
            unit.Finds grammar disk mode candidate := by
  obtain ⟨registry, heuristic, collected, given, listed⟩ := unit.mem_heuristicSpans
  cases mode with
  | heuristic =>
    simp only [finds_heuristic_iff collected]
    exact .inr ⟨heuristic, given, listed⟩
  | semantic =>
    simp only [finds_semantic_iff]
    rcases unit.mem_semanticSpans grammar disk [] with lost | ⟨semantic, givenToo, inferred⟩
    · exact .inl lost
    · exact .inr ⟨semantic, givenToo, by simpa using inferred⟩
  | hybrid =>
    simp only [finds_hybrid_iff collected given, and_or_left, exists_or]
    rcases unit.mem_semanticSpans grammar disk heuristic with lost | ⟨semantic, givenToo, inferred⟩
    · exact .inl (hybrid_fails given lost)
    · refine .inr ⟨_, gives_hybrid given givenToo, fun span => ?_⟩
      rw [Span.mem_foldl_insertInto, inferred, ← listed]
      -- A claimed span is there already, whatever inference says about its candidates.
      tauto

theorem mem_spans_iff_of_under {span : Span}
    (given : (unit.spans grammar disk mode).under flag = .ok spans) :
    span ∈ spans ↔
      ∃ candidate, unit.tree.CandidateAt candidate.node candidate span ∧
        unit.Finds grammar disk mode candidate := by
  have undisturbed := (unit.attentive_spans grammar disk mode).under_lowered given
  rcases unit.mem_spans grammar disk mode with lost | ⟨_, found, listed⟩
  · rw [lost.under] at undisturbed
    simp at undisturbed
  · rw [found.under] at undisturbed
    cases undisturbed
    exact listed span

/-- An analysis reports no span without text, and a collection registers no function without a name,
whatever the mode and the flag. -/
structure ReportsNames (grammar : Grammar) (disk : FileSystem) (unit : SourceUnit) : Prop where
  spans : ∀ mode flag spans, (unit.spans grammar disk mode).under flag = .ok spans →
    ∀ span ∈ spans, span.isEmpty = false
  functions : ∀ flag registry, unit.document.collectRegistry.under flag = .ok registry →
    registry.hasFunction "" = false

/-- **Names without text.** No span without text is reported and no function without a name is
registered exactly if every candidate that a mode with a result says yes to covers some text by its
name, and the name of every function that was positive when it was registered has text. -/
theorem reportsNames_iff (grammar : Grammar) (disk : FileSystem) (unit : SourceUnit) :
    unit.ReportsNames grammar disk ↔
      (∀ mode flag spans, (unit.spans grammar disk mode).under flag = .ok spans →
        ∀ candidate, unit.tree.candidate? candidate.node = some candidate →
          unit.Finds grammar disk mode candidate →
            (unit.tree.span candidate.name).isEmpty = false) ∧
      ∀ flag registry, unit.document.collectRegistry.under flag = .ok registry →
        ∀ candidate, unit.document.Registers registry candidate →
          unit.document.textOf candidate.name ≠ "" := by
  constructor
  · intro reports
    constructor
    · intro mode flag spans given candidate stands found
      exact reports.spans mode flag spans given _
        ((mem_spans_iff_of_under given).mpr ⟨candidate, ⟨stands, rfl⟩, found⟩)
    · intro flag registry collected candidate registers nameless
      have known :=
        (Document.hasFunction_iff_of_under collected).mpr ⟨candidate, registers, nameless⟩
      rw [reports.functions flag registry collected] at known
      cases known
  · rintro ⟨wide, named⟩
    constructor
    · intro mode flag spans given span present
      obtain ⟨candidate, ⟨stands, rfl⟩, found⟩ := (mem_spans_iff_of_under given).mp present
      exact wide mode flag spans given candidate stands found
    · intro flag registry collected
      rw [Bool.eq_false_iff]
      intro known
      obtain ⟨candidate, registers, nameless⟩ :=
        (Document.hasFunction_iff_of_under collected).mp known
      exact named flag registry collected candidate registers nameless

/-- Where the name of every candidate has text, all that is reported and registered is named. -/
theorem reportsNames_of_named
    (named : ∀ position candidate, unit.tree.candidate? position = some candidate →
      unit.document.textOf candidate.name ≠ "") :
    unit.ReportsNames grammar disk where
  spans mode flag spans given span present := by
    obtain ⟨candidate, ⟨stands, rfl⟩, _⟩ := (mem_spans_iff_of_under given).mp present
    rw [Bool.eq_false_iff]
    intro empty
    exact named _ candidate stands (Text.slice_of_le (of_decide_eq_true empty))
  functions flag registry collected := by
    rw [Bool.eq_false_iff]
    intro known
    obtain ⟨candidate, ⟨_, stands, _⟩, nameless⟩ :=
      (Document.hasFunction_iff_of_under collected).mp known
    exact named _ candidate stands nameless

/-- The method without a name is reported at the place where its name is missing. -/
theorem not_reportsNames_unnamedMethod :
    (∀ mode, mode ≠ .semantic →
      (unnamedMethod.spans (fun _ _ => unnamedMethod.tree) emptyDisk mode).under .lowered =
        .ok [⟨11, 11⟩, ⟨23, 28⟩]) ∧
      ¬ unnamedMethod.ReportsNames (fun _ _ => unnamedMethod.tree) emptyDisk := by
  have heuristic : (unnamedMethod.spans (fun _ _ => unnamedMethod.tree) emptyDisk .heuristic).under
      .lowered = .ok [⟨11, 11⟩, ⟨23, 28⟩] := by decide +kernel
  have hybrid : (unnamedMethod.spans (fun _ _ => unnamedMethod.tree) emptyDisk .hybrid).under
      .lowered = .ok [⟨11, 11⟩, ⟨23, 28⟩] := by decide +kernel
  refine ⟨fun mode reads => ?_, fun reports => ?_⟩
  · cases mode with
    | heuristic => exact heuristic
    | semantic => exact absurd rfl reads
    | hybrid => exact hybrid
  · have wide := reports.spans _ _ _ heuristic ⟨11, 11⟩ (by simp)
    exact absurd wide (by decide)

end SourceUnit

end PromiseDetection

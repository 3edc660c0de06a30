import PromiseDetection.Proofs.Analysis.Polling
import PromiseDetection.Proofs.Tree.Ranges

/-!
The spans of an analysis do not overlap.

Every way to analyse a unit gives spans of names, in order and each of them once. If the nodes of
the tree are laid out in the text as a parser does it, and if no name is written inside another one,
then each span ends before the next one begins. A name without any text may touch the next span.
-/

namespace PromiseDetection

/-- No candidate has a name that stands above the name of a candidate. -/
def Tree.NamesBeside (tree : Tree) : Prop :=
  ∀ first < tree.size, ∀ second < tree.size, ∀ candidate ∈ tree.candidate? first,
    ∀ other ∈ tree.candidate? second, ¬ tree.IsAbove candidate.name other.name

instance (tree : Tree) : Decidable tree.NamesBeside := by
  unfold Tree.NamesBeside
  infer_instance

structure Tree.Lists (tree : Tree) (spans : List Span) : Prop where
  increasing : Span.Increasing spans
  exists_candidate : ∀ span ∈ spans, ∃ position < tree.size, ∃ candidate,
    tree.CandidateAt position candidate span

section

variable {tree : Tree} {spans more : List Span}

theorem Tree.lists_nil (tree : Tree) : tree.Lists [] where
  increasing := List.Pairwise.nil
  exists_candidate _ present := absurd present List.not_mem_nil

theorem Tree.Lists.foldl_insertInto (listed : tree.Lists spans) (further : tree.Lists more) :
    tree.Lists (more.foldl (fun all span => span.insertInto all) spans) where
  increasing := listed.increasing.foldl_insertInto more
  exists_candidate span present := by
    rcases Span.mem_foldl_insertInto.mp present with second | first
    · exact further.exists_candidate span second
    · exact listed.exists_candidate span first

theorem lists_passTo {State : Type} {judge : Judge State} {claimed : List Span} {start : State}
    {reached : List Span × State}
    (came : passTo? tree judge claimed start tree.size = some reached) : tree.Lists reached.1 where
  increasing := increasing_passTo came
  exists_candidate span present := by
    obtain ⟨_, position, inside, candidate, _, stands, _⟩ := (mem_passTo came span).mp present
    exact ⟨position, inside, candidate, stands⟩

/-- Of two spans in a list the first ends before the second begins. Their names are separated, and
the name that comes first in the tree is that of the first span, because spans are not turned round.
-/
theorem Tree.Lists.apart (listed : tree.Lists spans) (laid : tree.Laid) (beside : tree.NamesBeside) :
    spans.Pairwise fun first second => first.stop ≤ second.start := by
  refine listed.increasing.imp_of_mem fun {first second} firstIn secondIn before => ?_
  obtain ⟨position, here, candidate, stands, rfl⟩ := listed.exists_candidate first firstIn
  obtain ⟨place, there, other, otherStands, rfl⟩ := listed.exists_candidate second secondIn
  have inside := lt_size_of_candidate? stands
  have otherInside := lt_size_of_candidate? otherStands
  have ordered := laid.ordered candidate.name inside
  have otherOrdered := laid.ordered other.name otherInside
  rw [Span.before_iff] at before
  simp only [span] at before ⊢
  rcases Nat.lt_trichotomy candidate.name other.name with earlier | same | later
  · exact laid.separated earlier otherInside
      (beside position here place there _ stands _ otherStands)
  · rw [same] at before
    omega
  · have apart := laid.separated later inside
      (beside place there position here _ otherStands _ stands)
    omega

end

namespace SourceUnit

variable {grammar : Grammar} {disk : FileSystem} {unit : SourceUnit}

theorem lists_heuristicSpans (unit : SourceUnit) :
    ∃ heuristic, unit.heuristicSpans.Gives heuristic ∧ unit.tree.Lists heuristic := by
  obtain ⟨_, heuristic, _, given, increasing, listed⟩ := unit.gives_heuristicSpans
  refine ⟨heuristic, given, increasing, fun span present => ?_⟩
  obtain ⟨position, inside, candidate, stands, _⟩ := (listed span).mp present
  exact ⟨position, inside, candidate, stands⟩

theorem lists_semanticSpans (grammar : Grammar) (disk : FileSystem) (unit : SourceUnit)
    (claimed : List Span) :
    (unit.semanticSpans grammar disk claimed).Fails .endless ∨
      ∃ semantic, (unit.semanticSpans grammar disk claimed).Gives semantic ∧
        unit.tree.Lists semantic := by
  cases built : ModuleGraph.build grammar disk unit with
  | error error => exact Or.inr ⟨[], gives_semanticSpans_of_error built, unit.tree.lists_nil⟩
  | ok graph =>
    cases came : unit.semanticPassTo? graph claimed unit.tree.size with
    | none => exact Or.inl (semanticSpans_fails built came)
    | some reached => exact Or.inr ⟨reached.1, gives_semanticSpans built came, lists_passTo came⟩

theorem lists_spans (grammar : Grammar) (disk : FileSystem) (mode : Mode) (unit : SourceUnit) :
    (unit.spans grammar disk mode).Fails .endless ∨
      ∃ spans, (unit.spans grammar disk mode).Gives spans ∧ unit.tree.Lists spans := by
  cases mode with
  | heuristic => exact Or.inr unit.lists_heuristicSpans
  | semantic => exact unit.lists_semanticSpans grammar disk []
  | hybrid =>
    obtain ⟨heuristic, given, listed⟩ := unit.lists_heuristicSpans
    rcases unit.lists_semanticSpans grammar disk heuristic with lost | ⟨semantic, found, further⟩
    · exact Or.inl (hybrid_fails given lost)
    · exact Or.inr ⟨_, gives_hybrid given found, further.foldl_insertInto listed⟩

theorem lists_of_under {mode : Mode} {flag : Flag} {spans : List Span}
    (given : (unit.spans grammar disk mode).under flag = .ok spans) : unit.tree.Lists spans := by
  have undisturbed := (unit.attentive_spans grammar disk mode).under_lowered given
  rcases unit.lists_spans grammar disk mode with lost | ⟨_, found, listed⟩
  · rw [lost.under] at undisturbed
    simp at undisturbed
  · rw [found.under] at undisturbed
    cases undisturbed
    exact listed

/-- **Separation.** If the tree of a unit is laid out in its text and no name of a candidate stands
above another one, then every span that an analysis reports ends before the next one begins, and it
is reported once. -/
theorem spans_separated {mode : Mode} {flag : Flag} {spans : List Span} (laid : unit.tree.Laid)
    (beside : unit.tree.NamesBeside)
    (given : (unit.spans grammar disk mode).under flag = .ok spans) :
    spans.IsChain (fun span next => span.stop ≤ next.start) ∧ spans.Nodup := by
  have listed := lists_of_under given
  refine ⟨(listed.apart laid beside).isChain, ?_⟩
  exact listed.increasing.imp fun before same => by simp [same, Span.before_iff] at before

def unnamedMethodNodes : Array Node :=
  #[⟨.program, true, none, 0, 35, none⟩, ⟨.classDeclaration, true, none, 0, 35, some 0⟩,
    ⟨.classExpression, false, none, 0, 5, some 1⟩,
    ⟨.typeIdentifier, true, some .name, 6, 7, some 1⟩,
    ⟨.classBody, true, some .body, 8, 35, some 1⟩, ⟨.other "\x7b", false, none, 8, 9, some 4⟩,
    ⟨.methodDefinition, true, none, 10, 33, some 4⟩, ⟨.star, false, none, 10, 11, some 6⟩,
    ⟨.propertyIdentifier, true, some .name, 11, 11, some 6⟩,
    ⟨.other "formal_parameters", true, some .parameters, 11, 13, some 6⟩,
    ⟨.other "(", false, none, 11, 12, some 9⟩, ⟨.other ")", false, none, 12, 13, some 9⟩,
    ⟨.statementBlock, true, some .body, 14, 33, some 6⟩,
    ⟨.other "\x7b", false, none, 14, 15, some 12⟩, ⟨.returnStatement, true, none, 16, 31, some 12⟩,
    ⟨.other "return", false, none, 16, 22, some 14⟩, ⟨.callExpression, true, none, 23, 31, some 14⟩,
    ⟨.identifier, true, some .callee, 23, 28, some 16⟩,
    ⟨.other "arguments", true, none, 28, 31, some 16⟩,
    ⟨.other "(", false, none, 28, 29, some 18⟩, ⟨.numberLiteral, true, none, 29, 30, some 18⟩,
    ⟨.other ")", false, none, 30, 31, some 18⟩, ⟨.other "\x7d", false, none, 32, 33, some 12⟩,
    ⟨.other "\x7d", false, none, 34, 35, some 4⟩]

/-- A method whose name is missing. The parser puts a name without any text in its place. -/
def unnamedMethod : SourceUnit where
  document :=
    { text := "class C \x7b *() \x7b return fetch(1) \x7d \x7d"
      tree :=
        { nodes := unnamedMethodNodes
          ends := Tree.endsOf unnamedMethodNodes
          nonempty := by decide +kernel
          ends_size := by decide +kernel
          nested := by decide +kernel } }
  path? := some ⟨"main.ts"⟩
  dialect := .typeScript

theorem spans_separated_unnamedMethod :
    unnamedMethod.tree.Laid ∧ unnamedMethod.tree.NamesBeside ∧
      (unnamedMethod.spans (fun _ _ => unnamedMethod.tree) emptyDisk .hybrid).under .lowered =
        .ok [⟨11, 11⟩, ⟨23, 28⟩] ∧
      [Span.mk 11 11, ⟨23, 28⟩].IsChain (fun span next => span.stop ≤ next.start) ∧
        [Span.mk 11 11, ⟨23, 28⟩].Nodup := by
  have laid : unnamedMethod.tree.Laid := by decide +kernel
  have beside : unnamedMethod.tree.NamesBeside := by decide +kernel
  have given : (unnamedMethod.spans (fun _ _ => unnamedMethod.tree) emptyDisk .hybrid).under
      .lowered = .ok [⟨11, 11⟩, ⟨23, 28⟩] := by decide +kernel
  exact ⟨laid, beside, given, spans_separated laid beside given⟩

end SourceUnit

end PromiseDetection

import PromiseDetection.Analysis.Spans
import PromiseDetection.Proofs.Modules.Graph
import PromiseDetection.Proofs.Registry.Completeness
import PromiseDetection.Proofs.Text.Span

/-!
What a pass over a document emits.

A pass comes to every node once, in order, and judges the candidates whose spans are neither claimed
nor found. A span that is skipped because it was found already is there anyway. So a pass finds the
spans that are not claimed and belong to a candidate which the judge accepts in the state in which
the pass comes to it, and it keeps them in order.
-/

namespace PromiseDetection

def Tree.CandidateAt (tree : Tree) (position : Nat) (candidate : Candidate) (span : Span) : Prop :=
  tree.candidate? position = some candidate ∧ tree.span candidate.name = span

def Judge.Accepts {State : Type} (judge : Judge State) (state : State) (candidate : Candidate) :
    Prop :=
  ∃ next, (judge candidate).run state = some (true, next)

section

variable {State : Type} {tree : Tree} {judge : Judge State} {claimed found : List Span}
  {start state : State} {position : Nat} {reached : List Span × State}

theorem judgeAt_of_skipped
    (skipped : ∀ candidate span, tree.CandidateAt position candidate span →
      span ∈ claimed ∨ span ∈ found) :
    (judgeAt tree judge claimed found position).run state = some (found, state) := by
  unfold judgeAt
  split
  · rfl
  · next candidate stands =>
    have known := skipped candidate _ ⟨stands, rfl⟩
    simp only [Bool.or_eq_true, List.contains_iff_mem, known, ↓reduceIte]
    rfl

theorem judgeAt_of_judged {candidate : Candidate} {span : Span}
    (stands : tree.CandidateAt position candidate span) (unclaimed : span ∉ claimed)
    (new : span ∉ found) :
    (judgeAt tree judge claimed found position).run state =
      ((judge candidate).run state).map fun answer =>
        (if answer.1 then span.insertInto found else found, answer.2) := by
  obtain ⟨stands, rfl⟩ := stands
  unfold judgeAt
  simp only [stands, Bool.or_eq_true, List.contains_iff_mem, unclaimed, new, or_self, ↓reduceIte,
    StateT.run_bind]
  cases (judge candidate).run state with
  | none => rfl
  | some answer =>
    obtain ⟨verdict, next⟩ := answer
    cases verdict <;> rfl

theorem skipped_or_judged (tree : Tree) (claimed found : List Span) (position : Nat) :
    (∀ candidate span, tree.CandidateAt position candidate span →
        span ∈ claimed ∨ span ∈ found) ∨
      ∃ candidate span, tree.CandidateAt position candidate span ∧ span ∉ claimed ∧
        span ∉ found := by
  by_cases judged : ∃ candidate span, tree.CandidateAt position candidate span ∧
      span ∉ claimed ∧ span ∉ found
  · exact Or.inr judged
  · refine Or.inl fun candidate span stands => ?_
    by_contra neither
    rw [not_or] at neither
    exact judged ⟨candidate, span, stands, neither⟩

theorem Tree.CandidateAt.unique {candidate other : Candidate} {span otherSpan : Span}
    (stands : tree.CandidateAt position candidate span)
    (otherStands : tree.CandidateAt position other otherSpan) :
    candidate = other ∧ span = otherSpan := by
  obtain ⟨stands, rfl⟩ := stands
  obtain ⟨otherStands, rfl⟩ := otherStands
  cases stands.symm.trans otherStands
  exact ⟨rfl, rfl⟩

theorem mem_judgeAt
    (came : (judgeAt tree judge claimed found position).run state = some reached) (span : Span) :
    span ∈ reached.1 ↔
      span ∈ found ∨ span ∉ claimed ∧
        ∃ candidate, tree.CandidateAt position candidate span ∧ judge.Accepts state candidate := by
  rcases skipped_or_judged tree claimed found position with
    skipped | ⟨candidate, judged, stands, unclaimed, new⟩
  -- A skipped span is claimed or found already, so its verdict could not add anything.
  · rw [judgeAt_of_skipped skipped, Option.some.injEq] at came
    subst came
    constructor
    · exact Or.inl
    · rintro (old | ⟨unclaimed, candidate, stands, _⟩)
      · exact old
      · exact (skipped candidate span stands).resolve_left unclaimed
  · rw [judgeAt_of_judged stands unclaimed new] at came
    obtain ⟨⟨verdict, next⟩, answered, rfl⟩ := Option.map_eq_some_iff.mp came
    cases verdict with
    | true =>
      simp only [↓reduceIte, Span.mem_insertInto]
      constructor
      · rintro (rfl | old)
        · exact Or.inr ⟨unclaimed, candidate, stands, next, answered⟩
        · exact Or.inl old
      · rintro (old | ⟨_, _, otherStands, _⟩)
        · exact Or.inr old
        · exact Or.inl (otherStands.unique stands).2
    | false =>
      simp only [Bool.false_eq_true, ↓reduceIte]
      constructor
      · exact Or.inl
      · rintro (old | ⟨_, _, otherStands, _, accepted⟩)
        · exact old
        · obtain ⟨rfl, _⟩ := otherStands.unique stands
          simp [answered] at accepted

theorem increasing_judgeAt
    (came : (judgeAt tree judge claimed found position).run state = some reached)
    (increasing : Span.Increasing found) : Span.Increasing reached.1 := by
  rcases skipped_or_judged tree claimed found position with
    skipped | ⟨candidate, judged, stands, unclaimed, new⟩
  · rw [judgeAt_of_skipped skipped, Option.some.injEq] at came
    subst came
    exact increasing
  · rw [judgeAt_of_judged stands unclaimed new] at came
    obtain ⟨⟨verdict, next⟩, _, rfl⟩ := Option.map_eq_some_iff.mp came
    cases verdict with
    | true => exact increasing.insertInto judged
    | false => exact increasing

/-- What a pass has found, and its state, when it comes to a position. -/
def passTo? (tree : Tree) (judge : Judge State) (claimed : List Span) (start : State)
    (position : Nat) : Option (List Span × State) :=
  (judgeAll tree judge claimed (List.range position)).run start

theorem passTo?_zero : passTo? tree judge claimed start 0 = some ([], start) := rfl

theorem passTo?_succ (position : Nat) :
    passTo? tree judge claimed start (position + 1) =
      (passTo? tree judge claimed start position).bind fun before =>
        (judgeAt tree judge claimed before.1 position).run before.2 := by
  simp only [passTo?, judgeAll, List.range_succ, List.foldlM_append, List.foldlM_cons,
    List.foldlM_nil, bind_pure, StateT.run_bind]
  rfl

/-- A pass comes to some positions, to the candidate that stands there, and says yes to it. -/
def FoundBefore (tree : Tree) (judge : Judge State) (claimed : List Span) (start : State)
    (count : Nat) (span : Span) : Prop :=
  ∃ position < count, ∃ candidate before, tree.CandidateAt position candidate span ∧
    passTo? tree judge claimed start position = some before ∧ judge.Accepts before.2 candidate

theorem mem_passTo {count : Nat}
    (came : passTo? tree judge claimed start count = some reached) (span : Span) :
    span ∈ reached.1 ↔ span ∉ claimed ∧ FoundBefore tree judge claimed start count span := by
  induction count generalizing reached with
  | zero =>
    rw [passTo?_zero, Option.some.injEq] at came
    subst came
    simp [FoundBefore]
  | succ count inductionHypothesis =>
    rw [passTo?_succ] at came
    obtain ⟨before, cameBefore, stepped⟩ := Option.bind_eq_some_iff.mp came
    rw [mem_judgeAt stepped, inductionHypothesis cameBefore]
    constructor
    · rintro (⟨unclaimed, position, below, earlier⟩ | ⟨unclaimed, candidate, stands, accepted⟩)
      · exact ⟨unclaimed, position, Nat.lt_succ_of_lt below, earlier⟩
      · exact ⟨unclaimed, count, Nat.lt_succ_self count, candidate, before, stands, cameBefore,
          accepted⟩
    · rintro ⟨unclaimed, position, below, candidate, other, stands, cameOther, accepted⟩
      rcases Nat.lt_succ_iff_lt_or_eq.mp below with earlier | rfl
      · exact Or.inl ⟨unclaimed, position, earlier, candidate, other, stands, cameOther, accepted⟩
      · cases cameBefore.symm.trans cameOther
        exact Or.inr ⟨unclaimed, candidate, stands, accepted⟩

/-- What every step keeps holds wherever the pass comes. -/
theorem passTo?_invariant {holds : List Span × State → Prop} (begun : holds ([], start))
    (kept : ∀ before position after, holds before →
      (judgeAt tree judge claimed before.1 position).run before.2 = some after → holds after)
    {count : Nat} (came : passTo? tree judge claimed start count = some reached) :
    holds reached := by
  induction count generalizing reached with
  | zero =>
    cases came
    exact begun
  | succ count inductionHypothesis =>
    rw [passTo?_succ] at came
    obtain ⟨before, cameBefore, stepped⟩ := Option.bind_eq_some_iff.mp came
    exact kept before count reached (inductionHypothesis cameBefore) stepped

theorem increasing_passTo {count : Nat}
    (came : passTo? tree judge claimed start count = some reached) :
    Span.Increasing reached.1 := by
  apply passTo?_invariant List.Pairwise.nil _ came
  intro before position after increasing stepped
  exact increasing_judgeAt stepped increasing

/-- A pass comes to a candidate with an unclaimed span, about which the judge never answers. -/
def Stuck (tree : Tree) (judge : Judge State) (claimed : List Span) (start : State) : Prop :=
  ∃ position < tree.size, ∃ candidate span before, tree.CandidateAt position candidate span ∧
    span ∉ claimed ∧ passTo? tree judge claimed start position = some before ∧
      (judge candidate).run before.2 = none

theorem stuck_of_lost {count : Nat} (within : count ≤ tree.size)
    (lost : passTo? tree judge claimed start count = none) : Stuck tree judge claimed start := by
  induction count with
  | zero => simp [passTo?_zero] at lost
  | succ count inductionHypothesis =>
    cases cameBefore : passTo? tree judge claimed start count with
    | none => exact inductionHypothesis (Nat.le_of_succ_le within) cameBefore
    | some before =>
      -- The pass came this far, so it is the candidate here that it is stuck on.
      rw [passTo?_succ, cameBefore, Option.bind_some] at lost
      rcases skipped_or_judged tree claimed before.1 count with
        skipped | ⟨candidate, span, stands, unclaimed, new⟩
      · rw [judgeAt_of_skipped skipped] at lost
        simp at lost
      · rw [judgeAt_of_judged stands unclaimed new, Option.map_eq_none_iff] at lost
        exact ⟨count, within, candidate, span, before, stands, unclaimed, cameBefore, lost⟩

theorem spansOfWalk_gives
    (came : passTo? tree judge claimed start tree.size = some reached) :
    (spansOfWalk tree judge start claimed).Gives reached.1 := by
  rw [passTo?, ← tree.walkOrder_eq] at came
  apply Cancellable.gives_alongWalk
  rw [came]
  rfl

theorem spansOfWalk_fails (lost : passTo? tree judge claimed start tree.size = none) :
    (spansOfWalk tree judge start claimed).Fails .endless := by
  rw [passTo?, ← tree.walkOrder_eq] at lost
  apply Cancellable.fails_alongWalk
  rw [lost]
  rfl

end

namespace SourceUnit

variable {grammar : Grammar} {disk : FileSystem} {unit : SourceUnit} {claimed : List Span}

def Accepted (unit : SourceUnit) (registry : Registry) (span : Span) : Prop :=
  ∃ position < unit.tree.size, ∃ candidate, unit.tree.CandidateAt position candidate span ∧
    unit.document.candidateVerdict registry candidate = true

def heuristicJudge (unit : SourceUnit) (registry : Registry) : Judge Unit := fun candidate =>
  pure (unit.document.candidateVerdict registry candidate)

theorem heuristicJudge_accepts {registry : Registry} {candidate : Candidate} :
    (unit.heuristicJudge registry).Accepts () candidate ↔
      unit.document.candidateVerdict registry candidate = true := by
  constructor
  · rintro ⟨_, answered⟩
    exact congrArg Prod.fst (Option.some.inj answered)
  · intro positive
    refine ⟨(), ?_⟩
    rw [← positive]
    rfl

theorem heuristicPass_comes (unit : SourceUnit) (registry : Registry) {count : Nat}
    (within : count ≤ unit.tree.size) :
    ∃ reached, passTo? unit.tree (unit.heuristicJudge registry) [] () count = some reached := by
  cases came : passTo? unit.tree (unit.heuristicJudge registry) [] () count with
  | some reached => exact ⟨reached, rfl⟩
  | none =>
    obtain ⟨_, _, _, _, _, _, _, _, lost⟩ := stuck_of_lost within came
    cases lost

theorem gives_heuristicSpans_of_pass {registry : Registry} {reached : List Span × Unit}
    (collected : unit.document.collectRegistry.Gives registry)
    (came : passTo? unit.tree (unit.heuristicJudge registry) [] () unit.tree.size =
      some reached) :
    unit.heuristicSpans.Gives reached.1 :=
  collected.bind (spansOfWalk_gives came)

theorem gives_heuristicSpans (unit : SourceUnit) :
    ∃ registry heuristic, unit.document.collectRegistry.Gives registry ∧
      unit.heuristicSpans.Gives heuristic ∧ Span.Increasing heuristic ∧
        ∀ span, span ∈ heuristic ↔ unit.Accepted registry span := by
  have collected := unit.document.gives_collectRegistry
  obtain ⟨reached, came⟩ := unit.heuristicPass_comes _ (Nat.le_refl _)
  refine ⟨_, reached.1, collected, gives_heuristicSpans_of_pass collected came,
    increasing_passTo came, fun span => ?_⟩
  rw [mem_passTo came]
  constructor
  · rintro ⟨_, position, inside, candidate, before, stands, _, accepted⟩
    exact ⟨position, inside, candidate, stands, heuristicJudge_accepts.mp accepted⟩
  · rintro ⟨position, inside, candidate, stands, positive⟩
    obtain ⟨before, cameBefore⟩ := unit.heuristicPass_comes _ (Nat.le_of_lt inside)
    exact ⟨List.not_mem_nil, position, inside, candidate, before, stands, cameBefore,
      heuristicJudge_accepts.mpr positive⟩

theorem gives_semanticSpans_of_error {error : GraphError}
    (failed : ModuleGraph.build grammar disk unit = .error error) :
    (unit.semanticSpans grammar disk claimed).Gives [] := by
  simp only [semanticSpans, failed]
  exact Cancellable.gives_pure _

def semanticPassTo? (unit : SourceUnit) (graph : ModuleGraph) (claimed : List Span)
    (position : Nat) : Option (List Span × Session) :=
  passTo? unit.tree (Inference.onGraph graph).candidateVerdict claimed Session.fresh position

theorem gives_semanticSpans {graph : ModuleGraph} {reached : List Span × Session}
    (built : ModuleGraph.build grammar disk unit = .ok graph)
    (came : unit.semanticPassTo? graph claimed unit.tree.size = some reached) :
    (unit.semanticSpans grammar disk claimed).Gives reached.1 := by
  simp only [semanticSpans, built]
  exact spansOfWalk_gives came

theorem semanticSpans_fails {graph : ModuleGraph}
    (built : ModuleGraph.build grammar disk unit = .ok graph)
    (lost : unit.semanticPassTo? graph claimed unit.tree.size = none) :
    (unit.semanticSpans grammar disk claimed).Fails .endless := by
  simp only [semanticSpans, built]
  exact spansOfWalk_fails lost

/-- The hybrid spans are the claimed ones together with those that inference finds. -/
theorem gives_hybrid {found : List Span} (heuristic : unit.heuristicSpans.Gives claimed)
    (semantic : (unit.semanticSpans grammar disk claimed).Gives found) :
    (unit.spans grammar disk .hybrid).Gives
      (claimed.foldl (fun all span => span.insertInto all) found) := by
  apply Cancellable.Gives.bind heuristic
  apply Cancellable.Gives.bind semantic
  exact Cancellable.gives_pure _

theorem gives_hybrid_of_error {error : GraphError}
    (failed : ModuleGraph.build grammar disk unit = .error error)
    (heuristic : unit.heuristicSpans.Gives claimed) (increasing : Span.Increasing claimed) :
    (unit.spans grammar disk .hybrid).Gives claimed := by
  have semantic : (unit.semanticSpans grammar disk claimed).Gives [] :=
    gives_semanticSpans_of_error failed
  have hybrid := gives_hybrid heuristic semantic
  rwa [increasing.foldl_insertInto_nil] at hybrid

theorem hybrid_fails {error : AnalysisError} (heuristic : unit.heuristicSpans.Gives claimed)
    (semantic : (unit.semanticSpans grammar disk claimed).Fails error) :
    (unit.spans grammar disk .hybrid).Fails error := by
  apply Cancellable.Gives.bind_fails heuristic
  exact semantic.bind

/-- **Emission.** The heuristic spans are those of the candidates that the collected registry
accepts, in order. The hybrid spans are these and spans of further candidates, unless inference is
asked a question that it never answers. A unit without a module graph has no semantic spans. -/
theorem spans_exact (grammar : Grammar) (disk : FileSystem) (unit : SourceUnit) :
    ∃ registry heuristic,
      unit.document.collectRegistry.under .lowered = .ok registry ∧
      (unit.spans grammar disk .heuristic).under .lowered = .ok heuristic ∧
      Span.Increasing heuristic ∧
      (∀ span, span ∈ heuristic ↔ unit.Accepted registry span) ∧
      ((∃ hybrid, (unit.spans grammar disk .hybrid).under .lowered = .ok hybrid ∧
          Span.Increasing hybrid ∧ heuristic ⊆ hybrid ∧
          ∀ span ∈ hybrid, span ∉ heuristic →
            ∃ position < unit.tree.size, ∃ candidate,
              unit.tree.CandidateAt position candidate span) ∨
        (unit.spans grammar disk .hybrid).under .lowered = .error .endless ∧
          ∃ graph, ModuleGraph.build grammar disk unit = .ok graph ∧
            Stuck unit.tree (Inference.onGraph graph).candidateVerdict heuristic Session.fresh) ∧
      ((∃ error, ModuleGraph.build grammar disk unit = .error error) ↔
        unit.path?.bind Dialect.ofPath? = none) ∧
      ∀ error, ModuleGraph.build grammar disk unit = .error error →
        (unit.spans grammar disk .hybrid).under .lowered = .ok heuristic ∧
          (unit.spans grammar disk .semantic).under .lowered = .ok [] := by
  obtain ⟨registry, heuristic, collected, given, increasing, listed⟩ := unit.gives_heuristicSpans
  refine ⟨registry, heuristic, collected.under, given.under, increasing, listed, ?_,
    ModuleGraph.build_error_iff, fun error failed =>
      ⟨(gives_hybrid_of_error failed given increasing).under,
        (gives_semanticSpans_of_error failed).under⟩⟩
  cases built : ModuleGraph.build grammar disk unit with
  | error error =>
    exact Or.inl ⟨heuristic, (gives_hybrid_of_error built given increasing).under, increasing,
      List.Subset.refl _, fun span present absent => absurd present absent⟩
  | ok graph =>
    cases came : unit.semanticPassTo? graph heuristic unit.tree.size with
    | none =>
      exact Or.inr ⟨(hybrid_fails given (semanticSpans_fails built came)).under, graph, rfl,
        stuck_of_lost (Nat.le_refl _) came⟩
    | some reached =>
      refine Or.inl ⟨_, (gives_hybrid given (gives_semanticSpans built came)).under,
        (increasing_passTo came).foldl_insertInto _,
        fun span claimed => Span.mem_foldl_insertInto.mpr (Or.inl claimed),
        fun span present unclaimed => ?_⟩
      have found := (Span.mem_foldl_insertInto.mp present).resolve_left unclaimed
      obtain ⟨_, position, inside, candidate, _, stands, _⟩ := (mem_passTo came span).mp found
      exact ⟨position, inside, candidate, stands⟩

end SourceUnit

end PromiseDetection

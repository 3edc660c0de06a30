import PromiseDetection.Proofs.Analysis.Emission
import PromiseDetection.Proofs.Typing.History

/-!
The spans of hybrid mode against those of the other two modes.

The semantic pass of hybrid mode comes to the same candidates as the one of semantic mode, but it
leaves out the questions about claimed spans. So its session remembers fewer types, or other ones,
when it asks about a span that is not claimed. The hybrid spans are those of the other two modes
exactly if the two passes get the same answers about such spans all the same.
-/

namespace PromiseDetection

namespace Inference

variable {inference : Inference} {session : Session} {candidate : Candidate}

def Reached (inference : Inference) (session : Session) : Prop :=
  ∃ history, inference.sessionAfter? history = some session

theorem reached_fresh (inference : Inference) : inference.Reached .fresh := ⟨[], rfl⟩

theorem Reached.answered {verdict : Bool} {next : Session} (reached : inference.Reached session)
    (answered : (inference.answer candidate).run session = some (verdict, next)) :
    inference.Reached next := by
  obtain ⟨history, came⟩ := reached
  obtain ⟨outcome, ran, rfl⟩ := Option.map_eq_some_iff.mp came
  refine ⟨history ++ [candidate], ?_⟩
  unfold sessionAfter?
  rw [List.mapM_append, StateT.run_bind, ran]
  simp [answered]

theorem Reached.idle (reached : inference.Reached session) : session.Idle :=
  reached.elim fun _ came => idle_of_sessionAfter came

theorem candidateVerdict_eq (inference : Inference) (candidate : Candidate) :
    (candidate.kind = .function ∧ (inference.graph.tree 0).isAsync candidate.node = true) ∧
        inference.candidateVerdict candidate = pure true ∨
      inference.candidateVerdict candidate = inference.answer candidate := by
  unfold candidateVerdict
  split
  · next function =>
    split
    · next marked => exact Or.inl ⟨⟨function, marked⟩, rfl⟩
    · exact Or.inr rfl
  · exact Or.inr rfl

theorem Reached.judged {verdict : Bool} {next : Session} (reached : inference.Reached session)
    (judged : (inference.candidateVerdict candidate).run session = some (verdict, next)) :
    inference.Reached next := by
  rcases inference.candidateVerdict_eq candidate with ⟨_, marked⟩ | asked
  · rw [marked] at judged
    cases judged
    exact reached
  · rw [asked] at judged
    exact reached.answered judged

theorem reached_of_passTo {tree : Tree} {claimed : List Span} {count : Nat}
    {reached : List Span × Session}
    (came : passTo? tree inference.candidateVerdict claimed .fresh count = some reached) :
    inference.Reached reached.2 := by
  apply passTo?_invariant inference.reached_fresh _ came
  intro before position after earlier stepped
  rcases skipped_or_judged tree claimed before.1 position with
    skipped | ⟨candidate, span, stands, unclaimed, new⟩
  · rw [judgeAt_of_skipped skipped] at stepped
    cases stepped
    exact earlier
  · rw [judgeAt_of_judged stands unclaimed new] at stepped
    obtain ⟨answer, answered, rfl⟩ := Option.map_eq_some_iff.mp stepped
    exact earlier.judged answered

end Inference

namespace SourceUnit

variable {grammar : Grammar} {disk : FileSystem} {unit : SourceUnit} {graph : ModuleGraph}
  {heuristic claimed : List Span} {span : Span}

/-- All three modes give spans, and the hybrid ones are those of the other two. -/
def IsUnion (grammar : Grammar) (disk : FileSystem) (unit : SourceUnit) : Prop :=
  ∃ heuristic semantic hybrid,
    (unit.spans grammar disk .heuristic).under .lowered = .ok heuristic ∧
    (unit.spans grammar disk .semantic).under .lowered = .ok semantic ∧
    (unit.spans grammar disk .hybrid).under .lowered = .ok hybrid ∧
    ∀ span, span ∈ hybrid ↔ span ∈ heuristic ∨ span ∈ semantic

/-- The pass that leaves out the claimed spans comes to a candidate with the span, and it is
inferred that the candidate gives a promise if the types are given that the pass remembers by then.
-/
def Inferred (unit : SourceUnit) (graph : ModuleGraph) (claimed : List Span) (span : Span) : Prop :=
  ∃ position < unit.tree.size, ∃ candidate before, unit.tree.CandidateAt position candidate span ∧
    unit.semanticPassTo? graph claimed position = some before ∧
      (Inference.onGraph graph).verdictGiven? before.2.known? candidate = some true

/-- Inference is asked about every candidate whose span is not a heuristic one. -/
theorem candidateVerdict_of_not_accepted {registry : Registry} {position : Nat}
    {candidate : Candidate} (root : graph.root = unit) (inside : position < unit.tree.size)
    (stands : unit.tree.CandidateAt position candidate span)
    (refused : ¬ unit.Accepted registry span) :
    (Inference.onGraph graph).candidateVerdict candidate =
      (Inference.onGraph graph).answer candidate := by
  rcases (Inference.onGraph graph).candidateVerdict_eq candidate with
    ⟨⟨function, marked⟩, _⟩ | asked
  -- An `async` function is a heuristic span already.
  · refine absurd ⟨position, inside, candidate, stands, ?_⟩ refused
    subst root
    have marked : graph.root.document.tree.isAsync candidate.node = true := marked
    simp only [Document.candidateVerdict, function, Document.functionVerdict, marked, Bool.true_or]
  · exact asked

theorem mem_semanticPass {registry : Registry} {reached : List Span × Session}
    (root : graph.root = unit) (refused : ¬ unit.Accepted registry span) (unclaimed : span ∉ claimed)
    (came : unit.semanticPassTo? graph claimed unit.tree.size = some reached) :
    span ∈ reached.1 ↔ unit.Inferred graph claimed span := by
  rw [mem_passTo came, and_iff_right unclaimed]
  refine exists_congr fun position => and_congr_right fun inside => exists_congr fun candidate =>
    exists_congr fun before => and_congr_right fun stands => and_congr_right fun cameBefore => ?_
  -- Between two candidates the session reads nothing, so only the types that it remembers count.
  have idle := (Inference.reached_of_passTo cameBefore).idle
  rw [← Inference.verdictIn_of_idle idle, Judge.Accepts,
    candidateVerdict_of_not_accepted root inside stands refused]
  simp [Inference.verdictIn?]

theorem isUnion_of_error {error : GraphError}
    (failed : ModuleGraph.build grammar disk unit = .error error) :
    unit.IsUnion grammar disk := by
  obtain ⟨_, heuristic, _, given, increasing, _⟩ := unit.gives_heuristicSpans
  exact ⟨heuristic, [], heuristic, given.under, (gives_semanticSpans_of_error failed).under,
    (gives_hybrid_of_error failed given increasing).under, by simp⟩

theorem not_isUnion_of_fails {mode : Mode} {error : AnalysisError}
    (failed : (unit.spans grammar disk mode).Fails error) : ¬ unit.IsUnion grammar disk := by
  rintro ⟨_, _, _, heuristic, semantic, hybrid, _⟩
  have failed := failed.under
  cases mode with
  | heuristic => simp [failed] at heuristic
  | semantic => simp [failed] at semantic
  | hybrid => simp [failed] at hybrid

theorem isUnion_iff_of_gives {semantic hybrid : List Span}
    (heuristicGiven : (unit.spans grammar disk .heuristic).Gives heuristic)
    (semanticGiven : (unit.spans grammar disk .semantic).Gives semantic)
    (hybridGiven : (unit.spans grammar disk .hybrid).Gives hybrid) :
    unit.IsUnion grammar disk ↔
      ∀ span, span ∈ hybrid ↔ span ∈ heuristic ∨ span ∈ semantic := by
  constructor
  · rintro ⟨_, _, _, first, second, third, union⟩
    cases heuristicGiven.under.symm.trans first
    cases semanticGiven.under.symm.trans second
    cases hybridGiven.under.symm.trans third
    exact union
  · intro union
    exact ⟨heuristic, semantic, hybrid, heuristicGiven.under, semanticGiven.under,
      hybridGiven.under, union⟩

theorem isUnion_iff_of_passes {registry : Registry} {semantic hybrid : List Span × Session}
    (given : unit.heuristicSpans.Gives heuristic)
    (listed : ∀ span, span ∈ heuristic ↔ unit.Accepted registry span)
    (built : ModuleGraph.build grammar disk unit = .ok graph)
    (semanticCame : unit.semanticPassTo? graph [] unit.tree.size = some semantic)
    (hybridCame : unit.semanticPassTo? graph heuristic unit.tree.size = some hybrid) :
    unit.IsUnion grammar disk ↔
      ∀ span, span ∉ heuristic →
        (unit.Inferred graph heuristic span ↔ unit.Inferred graph [] span) := by
  rw [isUnion_iff_of_gives given (gives_semanticSpans built semanticCame)
    (gives_hybrid given (gives_semanticSpans built hybridCame))]
  refine forall_congr' fun span => ?_
  rw [Span.mem_foldl_insertInto]
  by_cases claimed : span ∈ heuristic
  · simp [claimed]
  · have refused : ¬ unit.Accepted registry span := fun accepted =>
      claimed ((listed span).mpr accepted)
    have root := ModuleGraph.root_of_build built
    rw [mem_semanticPass root refused claimed hybridCame,
      mem_semanticPass root refused List.not_mem_nil semanticCame]
    simp [claimed]

/-- **Union.** The hybrid spans are those of the other two modes exactly if both semantic passes
come to an end and infer the same of every span that is not a heuristic one, each with the types
that it remembers by then. -/
theorem isUnion_iff (grammar : Grammar) (disk : FileSystem) (unit : SourceUnit) :
    unit.IsUnion grammar disk ↔
      ∀ graph, ModuleGraph.build grammar disk unit = .ok graph →
        ∃ heuristic, (unit.spans grammar disk .heuristic).under .lowered = .ok heuristic ∧
          (unit.semanticPassTo? graph [] unit.tree.size).isSome = true ∧
          (unit.semanticPassTo? graph heuristic unit.tree.size).isSome = true ∧
          ∀ span, span ∉ heuristic →
            (unit.Inferred graph heuristic span ↔ unit.Inferred graph [] span) := by
  obtain ⟨registry, heuristic, _, given, _, listed⟩ := unit.gives_heuristicSpans
  constructor
  · intro union graph built
    refine ⟨heuristic, given.under, ?_⟩
    cases semanticCame : unit.semanticPassTo? graph [] unit.tree.size with
    | none =>
      have lost : (unit.spans grammar disk .semantic).Fails .endless :=
        semanticSpans_fails built semanticCame
      exact absurd union (not_isUnion_of_fails lost)
    | some semantic =>
      cases hybridCame : unit.semanticPassTo? graph heuristic unit.tree.size with
      | none =>
        have lost := hybrid_fails given (semanticSpans_fails built hybridCame)
        exact absurd union (not_isUnion_of_fails lost)
      | some hybrid =>
        exact ⟨rfl, rfl,
          (isUnion_iff_of_passes given listed built semanticCame hybridCame).mp union⟩
  · intro agreeing
    cases built : ModuleGraph.build grammar disk unit with
    | error error => exact isUnion_of_error built
    | ok graph =>
      obtain ⟨_, given', semanticEnds, hybridEnds, same⟩ := agreeing graph built
      cases given.under.symm.trans given'
      obtain ⟨semantic, semanticCame⟩ := Option.isSome_iff_exists.mp semanticEnds
      obtain ⟨hybrid, hybridCame⟩ := Option.isSome_iff_exists.mp hybridEnds
      exact (isUnion_iff_of_passes given listed built semanticCame hybridCame).mpr same

/-- Inference ends on the candidates of a unit, and never answers otherwise than in a fresh session.
-/
structure Steady (unit : SourceUnit) (inference : Inference) : Prop where
  ends : ∀ position candidate, unit.tree.candidate? position = some candidate →
    (inference.verdictIn? .fresh candidate).isSome = true
  independent : ∀ position candidate, unit.tree.candidate? position = some candidate →
    ∀ history, inference.IndependentOf candidate history

theorem Steady.comes {count : Nat} (steady : unit.Steady (Inference.onGraph graph))
    (claimed : List Span) (within : count ≤ unit.tree.size) :
    ∃ reached, unit.semanticPassTo? graph claimed count = some reached := by
  cases came : unit.semanticPassTo? graph claimed count with
  | some reached => exact ⟨reached, rfl⟩
  | none =>
    obtain ⟨position, _, candidate, span, before, stands, _, cameBefore, lost⟩ :=
      stuck_of_lost within came
    obtain ⟨history, session⟩ := Inference.reached_of_passTo cameBefore
    have same := steady.independent position candidate stands.1 history before.2 session
    have ends := steady.ends position candidate stands.1
    rcases (Inference.onGraph graph).candidateVerdict_eq candidate with ⟨_, marked⟩ | asked
    · rw [marked] at lost
      cases lost
    · rw [asked] at lost
      rw [← same] at ends
      simp [Inference.verdictIn?, lost] at ends

theorem Steady.inferred_iff (steady : unit.Steady (Inference.onGraph graph))
    (claimed : List Span) (span : Span) :
    unit.Inferred graph claimed span ↔
      ∃ position < unit.tree.size, ∃ candidate, unit.tree.CandidateAt position candidate span ∧
        (Inference.onGraph graph).verdictIn? .fresh candidate = some true := by
  have fresh {position : Nat} {candidate : Candidate} {before : List Span × Session}
      (stands : unit.tree.CandidateAt position candidate span)
      (came : unit.semanticPassTo? graph claimed position = some before) :
      (Inference.onGraph graph).verdictGiven? before.2.known? candidate =
        (Inference.onGraph graph).verdictIn? .fresh candidate := by
    have reached := Inference.reached_of_passTo came
    rw [← Inference.verdictIn_of_idle reached.idle]
    obtain ⟨history, session⟩ := reached
    exact steady.independent position candidate stands.1 history before.2 session
  constructor
  · rintro ⟨position, inside, candidate, before, stands, came, positive⟩
    exact ⟨position, inside, candidate, stands, (fresh stands came).symm.trans positive⟩
  · rintro ⟨position, inside, candidate, stands, positive⟩
    obtain ⟨before, came⟩ := steady.comes claimed (Nat.le_of_lt inside)
    exact ⟨position, inside, candidate, before, stands, came, (fresh stands came).trans positive⟩

theorem isUnion_of_steady (steady : ∀ graph, ModuleGraph.build grammar disk unit = .ok graph →
      unit.Steady (Inference.onGraph graph)) :
    unit.IsUnion grammar disk := by
  rw [isUnion_iff]
  intro graph built
  obtain ⟨_, heuristic, _, given, _⟩ := unit.gives_heuristicSpans
  refine ⟨heuristic, given.under, ?_, ?_, fun span _ => ?_⟩
  · exact Option.isSome_iff_exists.mpr ((steady graph built).comes [] (Nat.le_refl _))
  · exact Option.isSome_iff_exists.mpr ((steady graph built).comes heuristic (Nat.le_refl _))
  · rw [(steady graph built).inferred_iff, (steady graph built).inferred_iff]

def claimedMemberNodes : Array Node :=
  #[⟨.program, true, none, 0, 96, none⟩, ⟨.functionDeclaration, true, none, 0, 43, some 0⟩,
    ⟨.functionWord, false, none, 0, 8, some 1⟩, ⟨.identifier, true, some .name, 9, 10, some 1⟩,
    ⟨.other "formal_parameters", true, some .parameters, 10, 12, some 1⟩,
    ⟨.other "(", false, none, 10, 11, some 4⟩, ⟨.other ")", false, none, 11, 12, some 4⟩,
    ⟨.statementBlock, true, some .body, 13, 43, some 1⟩,
    ⟨.other "\x7b", false, none, 13, 14, some 7⟩, ⟨.returnStatement, true, none, 15, 30, some 7⟩,
    ⟨.other "return", false, none, 15, 21, some 9⟩, ⟨.callExpression, true, none, 22, 29, some 9⟩,
    ⟨.identifier, true, some .callee, 22, 27, some 11⟩,
    ⟨.other "arguments", true, none, 27, 29, some 11⟩, ⟨.other "(", false, none, 27, 28, some 13⟩,
    ⟨.other ")", false, none, 28, 29, some 13⟩, ⟨.other ";", false, none, 29, 30, some 9⟩,
    ⟨.returnStatement, true, none, 31, 41, some 7⟩, ⟨.other "return", false, none, 31, 37, some 17⟩,
    ⟨.callExpression, true, none, 38, 41, some 17⟩,
    ⟨.identifier, true, some .callee, 38, 39, some 19⟩,
    ⟨.other "arguments", true, none, 39, 41, some 19⟩, ⟨.other "(", false, none, 39, 40, some 21⟩,
    ⟨.other ")", false, none, 40, 41, some 21⟩, ⟨.other "\x7d", false, none, 42, 43, some 7⟩,
    ⟨.functionDeclaration, true, none, 44, 96, some 0⟩,
    ⟨.functionWord, false, none, 44, 52, some 25⟩, ⟨.identifier, true, some .name, 53, 54, some 25⟩,
    ⟨.other "formal_parameters", true, some .parameters, 54, 56, some 25⟩,
    ⟨.other "(", false, none, 54, 55, some 28⟩, ⟨.other ")", false, none, 55, 56, some 28⟩,
    ⟨.statementBlock, true, some .body, 57, 96, some 25⟩,
    ⟨.other "\x7b", false, none, 57, 58, some 31⟩, ⟨.returnStatement, true, none, 59, 72, some 31⟩,
    ⟨.other "return", false, none, 59, 65, some 33⟩,
    ⟨.memberExpression, true, none, 66, 71, some 33⟩,
    ⟨.callExpression, true, some .object, 66, 69, some 35⟩,
    ⟨.identifier, true, some .callee, 66, 67, some 36⟩,
    ⟨.other "arguments", true, none, 67, 69, some 36⟩, ⟨.other "(", false, none, 67, 68, some 38⟩,
    ⟨.other ")", false, none, 68, 69, some 38⟩, ⟨.other ".", false, none, 69, 70, some 35⟩,
    ⟨.propertyIdentifier, true, some .property, 70, 71, some 35⟩,
    ⟨.other ";", false, none, 71, 72, some 33⟩, ⟨.returnStatement, true, none, 73, 94, some 31⟩,
    ⟨.other "return", false, none, 73, 79, some 44⟩, ⟨.objectLiteral, true, none, 80, 94, some 44⟩,
    ⟨.other "\x7b", false, none, 80, 81, some 46⟩, ⟨.pair, true, none, 82, 92, some 46⟩,
    ⟨.propertyIdentifier, true, some .key, 82, 83, some 48⟩,
    ⟨.other ":", false, none, 83, 84, some 48⟩,
    ⟨.callExpression, true, some .value, 85, 92, some 48⟩,
    ⟨.identifier, true, some .callee, 85, 90, some 51⟩,
    ⟨.other "arguments", true, none, 90, 92, some 51⟩, ⟨.other "(", false, none, 90, 91, some 53⟩,
    ⟨.other ")", false, none, 91, 92, some 53⟩, ⟨.other "\x7d", false, none, 93, 94, some 46⟩,
    ⟨.other "\x7d", false, none, 95, 96, some 31⟩]

def claimedMember : SourceUnit where
  document :=
    { text := "function a() \x7b return fetch(); return b() \x7d\n" ++
        "function b() \x7b return a().x; return \x7b x: fetch() \x7d \x7d"
      tree :=
        { nodes := claimedMemberNodes
          ends := Tree.endsOf claimedMemberNodes
          nonempty := by decide +kernel
          ends_size := by decide +kernel
          nested := by decide +kernel } }
  path? := some ⟨"main.ts"⟩
  dialect := .typeScript

def claimedMemberGraph : ModuleGraph where
  root := claimedMember
  imports := #[]
  links := []

theorem build_claimedMember (grammar : Grammar) (disk : FileSystem) :
    ModuleGraph.build grammar disk claimedMember = .ok claimedMemberGraph :=
  ModuleGraph.build_of_no_specifiers rfl (by decide +kernel) (by decide +kernel)

theorem collectRegistry_claimedMember :
    claimedMember.document.collectRegistry.Gives
      (claimedMember.document.settledWork
        (claimedMember.document.instancesOf (List.range claimedMember.tree.size))
        (claimedMember.document.definitionsOf (List.range claimedMember.tree.size))).registry := by
  rw [← Tree.walkOrder_eq]
  exact claimedMember.document.gives_collectRegistry

theorem heuristicSpans_claimedMember :
    claimedMember.heuristicSpans.Gives [⟨9, 10⟩, ⟨22, 27⟩, ⟨66, 67⟩, ⟨85, 90⟩] := by
  have found : (passTo? claimedMember.tree (claimedMember.heuristicJudge
      (claimedMember.document.settledWork
        (claimedMember.document.instancesOf (List.range claimedMember.tree.size))
        (claimedMember.document.definitionsOf (List.range claimedMember.tree.size))).registry) []
      () claimedMember.tree.size).map (·.1) = some [⟨9, 10⟩, ⟨22, 27⟩, ⟨66, 67⟩, ⟨85, 90⟩] := by
    decide +kernel
  obtain ⟨⟨spans, _⟩, came, given⟩ := Option.map_eq_some_iff.mp found
  cases given
  exact gives_heuristicSpans_of_pass collectRegistry_claimedMember came

theorem semanticSpans_claimedMember (grammar : Grammar) (disk : FileSystem) :
    (claimedMember.semanticSpans grammar disk []).Gives
      [⟨9, 10⟩, ⟨22, 27⟩, ⟨38, 39⟩, ⟨53, 54⟩, ⟨66, 67⟩, ⟨85, 90⟩] := by
  have found : (claimedMember.semanticPassTo? claimedMemberGraph []
      claimedMember.tree.size).map (·.1) =
        some [⟨9, 10⟩, ⟨22, 27⟩, ⟨38, 39⟩, ⟨53, 54⟩, ⟨66, 67⟩, ⟨85, 90⟩] := by
    decide +kernel
  obtain ⟨⟨spans, _⟩, came, given⟩ := Option.map_eq_some_iff.mp found
  cases given
  exact gives_semanticSpans (build_claimedMember grammar disk) came

theorem unclaimedSpans_claimedMember (grammar : Grammar) (disk : FileSystem) :
    (claimedMember.semanticSpans grammar disk
      [⟨9, 10⟩, ⟨22, 27⟩, ⟨66, 67⟩, ⟨85, 90⟩]).Gives [] := by
  have found : (claimedMember.semanticPassTo? claimedMemberGraph
      [⟨9, 10⟩, ⟨22, 27⟩, ⟨66, 67⟩, ⟨85, 90⟩] claimedMember.tree.size).map (·.1) = some [] := by
    decide +kernel
  obtain ⟨⟨spans, _⟩, came, given⟩ := Option.map_eq_some_iff.mp found
  cases given
  exact gives_semanticSpans (build_claimedMember grammar disk) came

def onlyClaimedMember : Grammar := fun _ _ => claimedMember.tree

def emptyDisk : FileSystem where
  workingDirectory := []
  entries := []

/-- The second function and its call are semantic spans, because the session remembers the first
function. Hybrid mode never asks about the first function, so it does not find them. -/
theorem not_isUnion_claimedMember :
    claimedMember = parse onlyClaimedMember claimedMember.document.text (some ⟨"main.ts"⟩) ∧
      (claimedMember.spans onlyClaimedMember emptyDisk .heuristic).under .lowered =
        .ok [⟨9, 10⟩, ⟨22, 27⟩, ⟨66, 67⟩, ⟨85, 90⟩] ∧
      (claimedMember.spans onlyClaimedMember emptyDisk .semantic).under .lowered =
        .ok [⟨9, 10⟩, ⟨22, 27⟩, ⟨38, 39⟩, ⟨53, 54⟩, ⟨66, 67⟩, ⟨85, 90⟩] ∧
      (claimedMember.spans onlyClaimedMember emptyDisk .hybrid).under .lowered =
        .ok [⟨9, 10⟩, ⟨22, 27⟩, ⟨66, 67⟩, ⟨85, 90⟩] ∧
      ¬ claimedMember.IsUnion onlyClaimedMember emptyDisk := by
  have heuristic : (claimedMember.spans onlyClaimedMember emptyDisk .heuristic).Gives _ :=
    heuristicSpans_claimedMember
  have semantic : (claimedMember.spans onlyClaimedMember emptyDisk .semantic).Gives _ :=
    semanticSpans_claimedMember _ _
  have hybrid : (claimedMember.spans onlyClaimedMember emptyDisk .hybrid).Gives _ :=
    gives_hybrid heuristicSpans_claimedMember (unclaimedSpans_claimedMember _ _)
  refine ⟨rfl, heuristic.under, semantic.under, hybrid.under, ?_⟩
  rw [isUnion_iff_of_gives heuristic semantic hybrid]
  intro union
  exact absurd ((union ⟨38, 39⟩).mpr (by decide)) (by decide)

end SourceUnit

end PromiseDetection

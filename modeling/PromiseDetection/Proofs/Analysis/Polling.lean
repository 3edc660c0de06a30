import PromiseDetection.Proofs.Analysis.Union

/-!
What a raised flag does to an analysis.

An analysis is a sequence of walks, and each of them polls the flag before every subtree of the root
and once at the end. A poll that sees the flag raised cancels everything: nothing is made of the
walks before. If no poll does, then the analysis is the one that nobody disturbs. The one route
without any walk is inference on a unit that has no module graph, and there a raised flag is not
noticed.
-/

namespace PromiseDetection

theorem Flag.after_zero (flag : Flag) : flag.after 0 = flag :=
  funext fun poll => congrArg flag (Nat.zero_add poll)

theorem Flag.after_after (flag : Flag) (first second : Nat) :
    (flag.after first).after second = flag.after (first + second) :=
  funext fun poll => congrArg flag (Nat.add_assoc first second poll).symm

namespace Cancellable

variable {α β : Type} {computation : Cancellable α} {next : α → Cancellable β} {count more : Nat}
  {value : α}

/-- A computation polls its flag `count` times on the way to an outcome. Wherever one of these polls
sees the flag raised the computation is cancelled. Otherwise it comes to the outcome, and the
answers that are left are those after the last poll. -/
structure Polls (computation : Cancellable α) (count : Nat) (outcome : Except AnalysisError α) :
    Prop where
  cancelled : ∀ flag : Flag, (∃ poll < count, flag poll = true) →
    computation.run flag = .error .cancelled
  undisturbed : ∀ flag : Flag, (∀ poll < count, flag poll = false) →
    computation.run flag = outcome.map fun value => (value, flag.after count)
  own : outcome ≠ .error .cancelled

theorem polls_pure (value : α) : Polls (pure value) 0 (.ok value) where
  cancelled flag raised := by simp at raised
  undisturbed flag _ := by
    simp only [flag.after_zero]
    rfl
  own := by simp

theorem raised_before_or_after (flag : Flag) (count more : Nat) :
    (∃ poll < count, flag poll = true) ∨
      (∀ poll < count, flag poll = false) ∧
        ((∃ poll < more, flag.after count poll = true) ↔ ∃ poll < count + more, flag poll = true) := by
  by_cases early : ∃ poll < count, flag poll = true
  · exact Or.inl early
  · have lowered : ∀ poll < count, flag poll = false := fun poll below =>
      Bool.eq_false_iff.mpr fun raised => early ⟨poll, below, raised⟩
    refine Or.inr ⟨lowered, ?_, ?_⟩
    · rintro ⟨poll, below, raised⟩
      exact ⟨count + poll, Nat.add_lt_add_left below count, raised⟩
    · rintro ⟨poll, below, raised⟩
      obtain ⟨rest, rfl⟩ : ∃ rest, poll = count + rest := by
        refine Nat.exists_eq_add_of_le (Nat.le_of_not_lt fun early => ?_)
        simp [lowered poll early] at raised
      exact ⟨rest, Nat.lt_of_add_lt_add_left below, raised⟩

theorem Polls.bind {outcome : Except AnalysisError β} (first : Polls computation count (.ok value))
    (second : Polls (next value) more outcome) :
    Polls (computation >>= next) (count + more) outcome where
  cancelled flag raised := by
    rw [StateT.run_bind]
    rcases raised_before_or_after flag count more with early | ⟨lowered, later⟩
    · rw [first.cancelled flag early]
      rfl
    · rw [first.undisturbed flag lowered]
      exact second.cancelled (flag.after count) (later.mpr raised)
  undisturbed flag lowered := by
    have begun := first.undisturbed flag fun poll below => lowered poll (Nat.lt_add_right more below)
    have continued := second.undisturbed (flag.after count) fun poll below =>
      lowered (count + poll) (Nat.add_lt_add_left below count)
    rw [flag.after_after] at continued
    rw [StateT.run_bind, begun]
    exact continued
  own := second.own

theorem Polls.bind_error {error : AnalysisError} (failed : Polls computation count (.error error)) :
    Polls (computation >>= next) count (.error error) where
  cancelled flag raised := by
    rw [StateT.run_bind, failed.cancelled flag raised]
    rfl
  undisturbed flag lowered := by
    rw [StateT.run_bind, failed.undisturbed flag lowered]
    rfl
  own same := failed.own (by rw [Except.error.inj same])

theorem Polls.under_lowered {outcome : Except AnalysisError α}
    (polls : Polls computation count outcome) : computation.under .lowered = outcome := by
  rw [under, polls.undisturbed .lowered fun _ _ => rfl]
  cases outcome <;> rfl

theorem Polls.under_eq_cancelled_iff {outcome : Except AnalysisError α}
    (polls : Polls computation count outcome) (flag : Flag) :
    computation.under flag = .error .cancelled ↔ ∃ poll < count, flag poll = true := by
  constructor
  · intro stopped
    rcases raised_before_or_after flag count 0 with raised | ⟨lowered, _⟩
    · exact raised
    · rw [under, polls.undisturbed flag lowered] at stopped
      cases outcome with
      | ok value => simp [Except.map] at stopped
      | error error => exact absurd stopped polls.own
  · intro raised
    rw [under, polls.cancelled flag raised]
    rfl

/-- Every poll of a computation is heard. If the computation comes to an end undisturbed, then it
polls `full` times. -/
def Attentive (computation : Cancellable α) (full : Nat) : Prop :=
  ∃ count outcome, Polls computation count outcome ∧ ∀ value, outcome = .ok value → count = full

theorem attentive_pure (value : α) : Attentive (pure value) 0 :=
  ⟨0, .ok value, polls_pure value, fun _ _ => rfl⟩

theorem Attentive.bind {full further : Nat} (first : Attentive computation full)
    (second : ∀ value, Attentive (next value) further) :
    Attentive (computation >>= next) (full + further) := by
  obtain ⟨count, outcome, polls, complete⟩ := first
  cases outcome with
  | error error => exact ⟨count, .error error, polls.bind_error, fun value ends => by simp at ends⟩
  | ok value =>
    obtain ⟨more, result, pollsOn, completeOn⟩ := second value
    refine ⟨count + more, result, polls.bind pollsOn, fun last ends => ?_⟩
    rw [complete value rfl, completeOn last ends]

theorem Attentive.under_lowered {full : Nat} (attentive : Attentive computation full) {flag : Flag}
    (given : computation.under flag = .ok value) : computation.under .lowered = .ok value := by
  obtain ⟨count, outcome, polls, _⟩ := attentive
  rw [polls.under_lowered]
  rcases raised_before_or_after flag count 0 with raised | ⟨lowered, _⟩
  · rw [under, polls.cancelled flag raised] at given
    simp [Except.map] at given
  · rw [under, polls.undisturbed flag lowered] at given
    cases outcome with
    | ok result => exact given
    | error error => simp [Except.map] at given

end Cancellable

def Tree.pollsOfWalk (tree : Tree) : Nat := (tree.children tree.root).length + 1

namespace Cancellable

variable {α : Type} {tree : Tree}

/-- What is made of the nodes below the root, while the subtrees of some nodes are visited. -/
def alongSubtrees (tree : Tree) (make : List Nat → Option α) (tops : List Nat) : Cancellable α :=
  fun flag =>
    let seen := tree.walkSubtrees flag tops
    match make seen.visited with
    | none => .error .endless
    | some result =>
      if seen.finished then .ok (result, flag.after seen.asked) else .error .cancelled

theorem alongSubtrees_cons (make : List Nat → Option α) (top : Nat) (rest : List Nat) {flag : Flag}
    (lowered : flag 0 = false) :
    (alongSubtrees tree make (top :: rest)).run flag =
      (alongSubtrees tree (fun below => make (tree.visitSubtree top ++ below)) rest).run
        (flag.after 1) := by
  simp only [StateT.run, alongSubtrees, Tree.walkSubtrees, lowered, Bool.false_eq_true, ↓reduceIte,
    flag.after_after]

def StaysLost (make : List Nat → Option α) : Prop :=
  ∀ visited later, make visited = none → make (visited ++ later) = none

theorem polls_of_lost {make : List Nat → Option α} (stays : StaysLost make) (lost : make [] = none)
    (tops : List Nat) : Polls (alongSubtrees tree make tops) 0 (.error .endless) where
  cancelled flag raised := by simp at raised
  undisturbed flag _ := by
    have always (visited : List Nat) : make visited = none := stays [] visited lost
    simp only [StateT.run, alongSubtrees, always]
    rfl
  own := by simp

/-- Before each subtree the flag is polled. The induction is on the subtrees that are left, and what
was made of the others goes into `make`. -/
theorem attentive_alongSubtrees (tops : List Nat) {make : List Nat → Option α}
    (stays : StaysLost make) : Attentive (alongSubtrees tree make tops) (tops.length + 1) := by
  induction tops generalizing make with
  | nil =>
    cases made : make [] with
    | none => exact ⟨0, _, polls_of_lost stays made [], fun value ends => by simp at ends⟩
    | some result =>
      refine ⟨1, .ok result, ⟨?_, ?_, by simp⟩, fun _ _ => rfl⟩
      · rintro flag ⟨poll, below, raised⟩
        obtain rfl : poll = 0 := Nat.lt_one_iff.mp below
        simp [StateT.run, alongSubtrees, Tree.walkSubtrees, made, raised]
      · intro flag lowered
        simp only [StateT.run, alongSubtrees, Tree.walkSubtrees, made, lowered 0 Nat.one_pos,
          Bool.not_false, ↓reduceIte]
        rfl
  | cons top rest inductionHypothesis =>
    cases made : make [] with
    | none =>
      exact ⟨0, _, polls_of_lost stays made (top :: rest), fun value ends => by simp at ends⟩
    | some result =>
      have lostBelow : StaysLost fun below => make (tree.visitSubtree top ++ below) := by
        intro visited later lost
        change make (tree.visitSubtree top ++ (visited ++ later)) = none
        rw [← List.append_assoc]
        exact stays _ later lost
      obtain ⟨count, outcome, polls, complete⟩ := inductionHypothesis lostBelow
      refine ⟨1 + count, outcome, ⟨?_, ?_, polls.own⟩, fun value ends => ?_⟩
      · intro flag raised
        cases first : flag 0 with
        | true => simp [StateT.run, alongSubtrees, Tree.walkSubtrees, made, first]
        | false =>
          rw [alongSubtrees_cons make top rest first]
          rcases raised_before_or_after flag 1 count with ⟨poll, below, early⟩ | ⟨_, later⟩
          · simp [Nat.lt_one_iff.mp below, first] at early
          · exact polls.cancelled _ (later.mpr raised)
      · intro flag lowered
        rw [alongSubtrees_cons make top rest (lowered 0 (Nat.lt_add_right count Nat.one_pos)),
          ← flag.after_after]
        exact polls.undisturbed _ fun poll below => lowered (1 + poll) (Nat.add_lt_add_left below 1)
      · rw [complete value ends, List.length_cons, Nat.add_comm]

theorem attentive_alongWalk (tree : Tree) {make : List Nat → Option α} (stays : StaysLost make) :
    Attentive (alongWalk tree make) tree.pollsOfWalk := by
  have below : StaysLost fun visited => make (tree.root :: visited) := fun visited later lost =>
    stays (tree.root :: visited) later lost
  exact attentive_alongSubtrees (tree.children tree.root) below

theorem attentive_walk (tree : Tree) : Attentive (walk tree) tree.pollsOfWalk := by
  have never : StaysLost (some : List Nat → Option (List Nat)) := fun visited later lost => by
    simp at lost
  exact attentive_alongWalk tree never

/-- Whoever sees the flag raised at the first poll has visited nothing but the root. -/
theorem alongWalk_raised {make : List Nat → Option α} {result : α}
    (made : make [tree.root] = some result) :
    (alongWalk tree make).run .raised = .error .cancelled := by
  have stopped (tops : List Nat) : (tree.walkSubtrees .raised tops).visited = [] ∧
      (tree.walkSubtrees .raised tops).finished = false := by
    cases tops <;> exact ⟨rfl, rfl⟩
  obtain ⟨visited, finished⟩ := stopped (tree.children tree.root)
  simp [StateT.run, alongWalk, Tree.walk, visited, finished, made]

end Cancellable

section

variable {State : Type} {tree : Tree}

theorem staysLost_judgeAll (tree : Tree) (judge : Judge State) (start : State)
    (claimed : List Span) : Cancellable.StaysLost fun visited =>
      ((judgeAll tree judge claimed visited).run start).map (·.1) := by
  intro visited later lost
  rw [Option.map_eq_none_iff] at lost ⊢
  rw [judgeAll, List.foldlM_append, StateT.run_bind]
  rw [judgeAll] at lost
  rw [lost]
  rfl

theorem attentive_spansOfWalk (tree : Tree) (judge : Judge State) (start : State)
    (claimed : List Span) :
    (spansOfWalk tree judge start claimed).Attentive tree.pollsOfWalk :=
  Cancellable.attentive_alongWalk tree (staysLost_judgeAll tree judge start claimed)

end

theorem Document.attentive_collectRegistry (document : Document) :
    document.collectRegistry.Attentive
      (document.tree.pollsOfWalk + (document.tree.pollsOfWalk + 0)) :=
  (Cancellable.attentive_walk document.tree).bind fun _ =>
    (Cancellable.attentive_walk document.tree).bind fun _ => Cancellable.attentive_pure _

namespace SourceUnit

variable {grammar : Grammar} {disk : FileSystem} {unit : SourceUnit}

/-- Inference takes one walk, if there is a module graph to infer from. -/
def semanticWalks (unit : SourceUnit) : Nat :=
  if (unit.path?.bind Dialect.ofPath?).isSome then 1 else 0

/-- How often a whole analysis walks through the tree. The syntactic judge needs a registry, and
two walks collect it. -/
def walks (unit : SourceUnit) : Mode → Nat
  | .heuristic => 3
  | .semantic => unit.semanticWalks
  | .hybrid => 3 + unit.semanticWalks

theorem attentive_heuristicSpans (unit : SourceUnit) :
    unit.heuristicSpans.Attentive (3 * unit.tree.pollsOfWalk) := by
  have walked := unit.document.attentive_collectRegistry.bind fun registry =>
    attentive_spansOfWalk unit.tree (unit.heuristicJudge registry) () []
  have three : unit.document.tree.pollsOfWalk + (unit.document.tree.pollsOfWalk + 0) +
      unit.tree.pollsOfWalk = 3 * unit.tree.pollsOfWalk := by
    simp only [tree]
    omega
  rwa [three] at walked

theorem attentive_semanticSpans (grammar : Grammar) (disk : FileSystem) (unit : SourceUnit)
    (claimed : List Span) :
    (unit.semanticSpans grammar disk claimed).Attentive
      (unit.semanticWalks * unit.tree.pollsOfWalk) := by
  cases script : unit.path?.bind Dialect.ofPath? with
  | none =>
    obtain ⟨error, failed⟩ : ∃ error, ModuleGraph.build grammar disk unit = .error error :=
      ModuleGraph.build_error_iff.mpr script
    simp only [semanticSpans, semanticWalks, failed, script]
    rw [Option.isSome_none, if_neg Bool.false_ne_true, Nat.zero_mul]
    exact Cancellable.attentive_pure []
  | some dialect =>
    obtain ⟨graph, built⟩ :=
      ModuleGraph.exists_build grammar disk (Option.isSome_iff_exists.mpr ⟨dialect, script⟩)
    simp only [semanticSpans, semanticWalks, built, script, Option.isSome_some, ↓reduceIte,
      Nat.one_mul]
    exact attentive_spansOfWalk unit.tree _ _ claimed

theorem attentive_spans (grammar : Grammar) (disk : FileSystem) (mode : Mode)
    (unit : SourceUnit) :
    (unit.spans grammar disk mode).Attentive (unit.walks mode * unit.tree.pollsOfWalk) := by
  cases mode with
  | heuristic => exact unit.attentive_heuristicSpans
  | semantic => exact unit.attentive_semanticSpans grammar disk []
  | hybrid =>
    have walked := unit.attentive_heuristicSpans.bind fun claimed =>
      (unit.attentive_semanticSpans grammar disk claimed).bind fun found =>
        Cancellable.attentive_pure (claimed.foldl (fun all span => span.insertInto all) found)
    rwa [Nat.add_zero, ← Nat.add_mul] at walked

/-- **All or nothing.** An analysis polls the flag a number of times, which is known in advance if
the analysis comes to an end. It is cancelled exactly if one of these polls sees the flag raised.
Otherwise it gives what it gives without a flag, and it has asked the flag just that often. -/
theorem spans_all_or_nothing (grammar : Grammar) (disk : FileSystem) (mode : Mode)
    (unit : SourceUnit) :
    ∃ polls,
      (∀ flag : Flag, (unit.spans grammar disk mode).under flag = .error .cancelled ↔
        ∃ poll < polls, flag poll = true) ∧
      (∀ flag : Flag, (∀ poll < polls, flag poll = false) →
        (unit.spans grammar disk mode).run flag =
          ((unit.spans grammar disk mode).under .lowered).map fun spans =>
            (spans, flag.after polls)) ∧
      ∀ spans, (unit.spans grammar disk mode).under .lowered = .ok spans →
        polls = unit.walks mode * unit.tree.pollsOfWalk := by
  obtain ⟨count, outcome, polls, complete⟩ := unit.attentive_spans grammar disk mode
  refine ⟨count, polls.under_eq_cancelled_iff, ?_, ?_⟩
  · intro flag lowered
    rw [polls.under_lowered, polls.undisturbed flag lowered]
  · intro spans given
    rw [polls.under_lowered] at given
    exact complete spans given

theorem heuristicSpans_raised (unit : SourceUnit) :
    unit.heuristicSpans.run .raised = .error .cancelled := by
  have nothing : some [unit.document.tree.root] = some [unit.document.tree.root] := rfl
  have stopped : (Cancellable.walk unit.document.tree).run .raised = .error .cancelled :=
    Cancellable.alongWalk_raised nothing
  rw [heuristicSpans, StateT.run_bind, Document.collectRegistry, StateT.run_bind, stopped]
  rfl

theorem semanticSpans_raised (grammar : Grammar) (disk : FileSystem)
    (plain : unit.tree.candidate? unit.tree.root = none)
    (script : (unit.path?.bind Dialect.ofPath?).isSome = true) (claimed : List Span) :
    (unit.semanticSpans grammar disk claimed).run .raised = .error .cancelled := by
  obtain ⟨graph, built⟩ := ModuleGraph.exists_build grammar disk script
  simp only [semanticSpans, built]
  have nothing : ((judgeAll unit.tree (Inference.onGraph graph).candidateVerdict claimed
      [unit.tree.root]).run .fresh).map (·.1) = some [] := by
    simp [judgeAll, judgeAt, plain]
  exact Cancellable.alongWalk_raised nothing

theorem spans_raised (grammar : Grammar) (disk : FileSystem) (mode : Mode)
    (plain : unit.tree.candidate? unit.tree.root = none) :
    (unit.spans grammar disk mode).under .raised =
      if mode = .semantic ∧ unit.path?.bind Dialect.ofPath? = none then .ok []
      else .error .cancelled := by
  cases mode with
  | heuristic =>
    rw [spans, Cancellable.under, heuristicSpans_raised]
    rfl
  | hybrid =>
    rw [spans, Cancellable.under, StateT.run_bind, heuristicSpans_raised]
    rfl
  | semantic =>
    cases script : unit.path?.bind Dialect.ofPath? with
    | none =>
      obtain ⟨error, failed⟩ : ∃ error, ModuleGraph.build grammar disk unit = .error error :=
        ModuleGraph.build_error_iff.mpr script
      simp only [spans, semanticSpans, failed]
      rfl
    | some dialect =>
      have inferred := Option.isSome_iff_exists.mpr ⟨dialect, script⟩
      rw [spans, Cancellable.under, semanticSpans_raised grammar disk plain inferred]
      rfl

end SourceUnit

/-- **Raised beforehand.** An analysis whose flag was raised before it began is cancelled, except
that inference without a module graph never looks at the flag. -/
theorem analyze_raised (grammar : Grammar) (disk : FileSystem) (text : String)
    (path? : Option Path) (mode : Mode)
    (plain : (grammar (Dialect.ofUnit path?) text).candidate? 0 = none) :
    analyze grammar disk text path? mode .raised =
      if mode = .semantic ∧ path?.bind Dialect.ofPath? = none then .ok []
      else .error .cancelled :=
  SourceUnit.spans_raised grammar disk mode plain

def asyncFunctionNodes : Array Node :=
  #[⟨.program, true, none, 0, 21, none⟩, ⟨.functionDeclaration, true, none, 0, 21, some 0⟩,
    ⟨.asyncWord, false, none, 0, 5, some 1⟩, ⟨.functionWord, false, none, 6, 14, some 1⟩,
    ⟨.identifier, true, some .name, 15, 16, some 1⟩,
    ⟨.other "formal_parameters", true, some .parameters, 16, 18, some 1⟩,
    ⟨.other "(", false, none, 16, 17, some 5⟩, ⟨.other ")", false, none, 17, 18, some 5⟩,
    ⟨.statementBlock, true, some .body, 19, 21, some 1⟩,
    ⟨.other "\x7b", false, none, 19, 20, some 8⟩, ⟨.other "\x7d", false, none, 20, 21, some 8⟩]

def onlyAsyncFunction : Grammar := fun _ _ =>
  { nodes := asyncFunctionNodes
    ends := Tree.endsOf asyncFunctionNodes
    nonempty := by decide +kernel
    ends_size := by decide +kernel
    nested := by decide +kernel }

theorem analyze_raised_asyncFunction :
    (onlyAsyncFunction (Dialect.ofUnit (some ⟨"main.ts"⟩))
        "async function f() \x7b\x7d").candidate? 0 = none ∧
      analyze onlyAsyncFunction SourceUnit.emptyDisk "async function f() \x7b\x7d"
        (some ⟨"main.ts"⟩) .semantic .raised = .error .cancelled := by
  have plain : (onlyAsyncFunction (Dialect.ofUnit (some ⟨"main.ts"⟩))
      "async function f() \x7b\x7d").candidate? 0 = none := by decide +kernel
  have script : ¬ (Mode.semantic = .semantic ∧
      (some (⟨"main.ts"⟩ : Path)).bind Dialect.ofPath? = none) := by decide +kernel
  exact ⟨plain, (analyze_raised onlyAsyncFunction SourceUnit.emptyDisk _ _ .semantic plain).trans
    (if_neg script)⟩

/-- The raised flag is noticed in the other modes, but not by inference on a text without a path. -/
theorem not_cancelled_asyncFunction :
    (∀ mode, mode ≠ .semantic →
      analyze onlyAsyncFunction SourceUnit.emptyDisk "async function f() \x7b\x7d" none mode .raised =
        .error .cancelled) ∧
      analyze onlyAsyncFunction SourceUnit.emptyDisk "async function f() \x7b\x7d" none .semantic
        .raised = .ok [] := by
  refine ⟨fun mode other => ?_, rfl⟩
  cases mode with
  | heuristic => decide +kernel
  | semantic => exact absurd rfl other
  | hybrid => decide +kernel

end PromiseDetection

import Mathlib.Data.List.Basic
import Mathlib.Data.Nat.Find
import PromiseDetection.Proofs.Tree.Ancestors

/-!
The cursor goes around the tree.

A cursor enters a node when it visits it, and it leaves the node once everything below it is done.
Its moves to a first child, to a next sibling and back to a parent take it from one of these events
to the next. On the way around a subtree each node is entered before its children and left after
them, so the nodes are entered in pre-order, and the way ends where the cursor would leave the node
it was set on. A walk goes around the children of a node in this way until the flag stops it.
-/

namespace PromiseDetection

/-- What a cursor does next: visit a node, or go on from a node with nothing left below it. -/
inductive CursorState where
  | entering (node : Nat)
  | leaving (node : Nat)

namespace Flag

variable {flag : Flag} {poll : Nat}

structure FirstRaised (flag : Flag) (poll : Nat) : Prop where
  now : flag poll = true
  before : ∀ earlier < poll, flag earlier = false

theorem FirstRaised.after_one (raised : flag.FirstRaised (poll + 1)) :
    (flag.after 1).FirstRaised poll where
  now := by rw [after, Nat.add_comm, raised.now]
  before earlier below := raised.before (1 + earlier) (by omega)

theorem lowered_or_firstRaised (flag : Flag) (last : Nat) :
    (∀ poll ≤ last, flag poll = false) ∨ ∃ poll ≤ last, flag.FirstRaised poll := by
  by_cases raised : ∃ poll, poll ≤ last ∧ flag poll = true
  · obtain ⟨within, now⟩ := Nat.find_spec raised
    refine .inr ⟨Nat.find raised, within, now, fun earlier below => ?_⟩
    have lowered := Nat.find_min raised below
    simpa [Nat.le_of_lt (Nat.lt_of_lt_of_le below within)] using lowered
  · push Not at raised
    exact .inl fun poll within => by simpa using raised poll within

end Flag

namespace CursorState

def visited? : CursorState → Option Nat
  | .entering node => some node
  | .leaving _ => none

/-- The moves of a cursor that was set on `top`: down to a first child after a visit, and then on to
a next sibling, or back to the parent if there is none. From `top` itself it does not go on. -/
def next? (tree : Tree) (top : Nat) : CursorState → Option CursorState
  | .entering node =>
    match tree.firstChild? node with
    | some child => some (.entering child)
    | none => some (.leaving node)
  | .leaving node =>
    if node = top then none
    else
      match tree.nextSibling? node with
      | some sibling => some (.entering sibling)
      | none => (tree.parent? node).map .leaving

end CursorState

namespace Tree

inductive Trail (tree : Tree) (top : Nat) : CursorState → List CursorState → Prop where
  | ends {state : CursorState} (stuck : state.next? tree top = none) : Trail tree top state [state]
  | goes {state next : CursorState} {onward : List CursorState}
      (move : state.next? tree top = some next) (trail : Trail tree top next onward) :
      Trail tree top state (state :: onward)

/-- The way around a subtree: into its node, around each child in turn, and out of the node. -/
def tour (tree : Tree) (node : Nat) : List CursorState :=
  .entering node :: ((tree.children node).attach.flatMap fun ⟨child, _membership⟩ =>
    tour tree child) ++ [.leaving node]
termination_by tree.size - node
decreasing_by exact remaining_lt_of_mem_children _membership

def preorder (tree : Tree) (node : Nat) : List Nat :=
  node :: (tree.children node).attach.flatMap fun ⟨child, _membership⟩ => preorder tree child
termination_by tree.size - node
decreasing_by exact remaining_lt_of_mem_children _membership

variable {tree : Tree} {top node child first : Nat} {before after : List Nat}

theorem head?_childrenBetween
    (opens : first < tree.subtreeEnd node → tree.parent? first = some node) :
    (tree.childrenBetween node first (tree.subtreeEnd node)).head? =
      if first < tree.subtreeEnd node then some first else none := by
  by_cases more : first < tree.subtreeEnd node
  · rw [if_pos more, childrenBetween_cons (opens more), List.head?_cons]
  · have nothing : tree.subtreeEnd node - first = 0 := by omega
    simp [more, childrenBetween, between, nothing]

theorem childrenBetween_eq_cons
    (opens : first < tree.subtreeEnd node → tree.parent? first = some node)
    (split : tree.childrenBetween node first (tree.subtreeEnd node) = child :: after) :
    tree.parent? child = some node ∧
      tree.childrenBetween node (tree.subtreeEnd child) (tree.subtreeEnd node) = after := by
  have begins := head?_childrenBetween opens
  rw [split, List.head?_cons] at begins
  split at begins
  · next more =>
    cases begins
    rw [childrenBetween_cons (opens more), List.cons.injEq] at split
    exact ⟨opens more, split.2⟩
  · simp at begins

theorem parent?_succ (opens : node + 1 < tree.subtreeEnd node) :
    tree.parent? (node + 1) = some node := by
  refine parent?_first (Nat.lt_of_not_le fun outside => ?_) opens
  rw [subtreeEnd_of_size_le outside] at opens
  exact absurd opens (Nat.lt_irrefl _)

theorem firstChild?_eq : tree.firstChild? node = (tree.children node).head? :=
  (head?_childrenBetween parent?_succ).symm

theorem nextSibling?_eq_of_childrenBetween
    (opens : first < tree.subtreeEnd node → tree.parent? first = some node)
    (split : tree.childrenBetween node first (tree.subtreeEnd node) = before ++ child :: after) :
    tree.nextSibling? child = after.head? := by
  induction before generalizing first with
  | nil =>
    obtain ⟨upward, rfl⟩ := childrenBetween_eq_cons opens split
    rw [head?_childrenBetween (parent?_next upward)]
    simp [nextSibling?, upward]
  | cons other before inductionHypothesis =>
    obtain ⟨upward, rest⟩ := childrenBetween_eq_cons opens split
    exact inductionHypothesis (parent?_next upward) rest

theorem nextSibling?_eq (split : tree.children node = before ++ child :: after) :
    tree.nextSibling? child = after.head? :=
  nextSibling?_eq_of_childrenBetween parent?_succ split

theorem tour_eq (tree : Tree) (node : Nat) :
    tree.tour node =
      .entering node :: (tree.children node).flatMap tree.tour ++ [.leaving node] := by
  rw [tour]
  simp

theorem preorder_eq (tree : Tree) (node : Nat) :
    tree.preorder node = node :: (tree.children node).flatMap tree.preorder := by
  rw [preorder]
  simp

theorem next?_entering (tree : Tree) (top node : Nat) :
    (CursorState.entering node).next? tree top =
      some (match tree.children node with
        | [] => .leaving node
        | child :: _ => .entering child) := by
  rw [CursorState.next?, firstChild?_eq]
  cases tree.children node <;> rfl

theorem next?_leaving (split : tree.children node = before ++ child :: after) (below : top ≤ node) :
    (CursorState.leaving child).next? tree top =
      some (match after with
        | [] => .leaving node
        | sibling :: _ => .entering sibling) := by
  have inside : child ∈ tree.children node := by simp [split]
  have apart : child ≠ top := by
    have deeper := lt_of_mem_children inside
    omega
  rw [CursorState.next?, if_neg apart, nextSibling?_eq split, parent?_of_mem_children inside]
  cases after <;> rfl

/-- If the cursor goes around each child of a node, then it goes around one after the other and
comes back to the node. The induction is on the children that are still ahead. -/
theorem Trail.along {onward : List CursorState} (below : top ≤ node)
    (around : ∀ child ∈ tree.children node, ∀ later,
      tree.Trail top (.leaving child) (.leaving child :: later) →
        tree.Trail top (.entering child) (tree.tour child ++ later))
    (back : tree.Trail top (.leaving node) onward)
    (split : tree.children node = before ++ child :: after) :
    tree.Trail top (.entering child) ((child :: after).flatMap tree.tour ++ onward) := by
  have move := next?_leaving split below
  rw [List.flatMap_cons, List.append_assoc]
  apply around child (by simp [split])
  induction after generalizing before child with
  | nil => exact .goes move back
  | cons sibling after inductionHypothesis =>
    have split' : tree.children node = (before ++ [child]) ++ sibling :: after := by simp [split]
    have later := inductionHypothesis split' (next?_leaving split' below)
    rw [List.flatMap_cons, List.append_assoc]
    exact .goes move (around sibling (by simp [split]) _ later)

theorem Trail.around {onward : List CursorState} (below : top ≤ node)
    (back : tree.Trail top (.leaving node) (.leaving node :: onward)) :
    tree.Trail top (.entering node) (tree.tour node ++ onward) := by
  induction measure : tree.size - node using Nat.strong_induction_on generalizing node onward with
  | _ remaining inductionHypothesis =>
    subst measure
    have move := next?_entering tree top node
    rw [tour_eq]
    cases split : tree.children node with
    | nil =>
      rw [split] at move
      exact .goes move back
    | cons child after =>
      rw [split] at move
      have fromFirst : tree.children node = [] ++ child :: after := split
      have along := Trail.along below (fun child inside later left =>
        inductionHypothesis _ (remaining_lt_of_mem_children inside)
          (Nat.le_trans below (Nat.le_of_lt (lt_of_mem_children inside))) left rfl) back fromFirst
      exact .goes move (by simpa using along)

/-- The moves of the cursor come to an end, and they have led once around the subtree. -/
theorem trail_tour (tree : Tree) (top : Nat) : tree.Trail top (.entering top) (tree.tour top) := by
  have stuck : (CursorState.leaving top).next? tree top = none := if_pos rfl
  simpa using Trail.around (Nat.le_refl top) (.ends stuck)

/-- On the way around a subtree the nodes are entered in pre-order. -/
theorem filterMap_visited?_tour (tree : Tree) (node : Nat) :
    (tree.tour node).filterMap CursorState.visited? = tree.preorder node := by
  induction measure : tree.size - node using Nat.strong_induction_on generalizing node with
  | _ remaining inductionHypothesis =>
    subst measure
    have below : (tree.children node).flatMap (fun child =>
        (tree.tour child).filterMap CursorState.visited?) =
          (tree.children node).flatMap tree.preorder :=
      List.flatMap_congr fun child inside =>
        inductionHypothesis _ (remaining_lt_of_mem_children inside) child rfl
    rw [tour_eq, preorder_eq, ← below]
    simp [List.filterMap_flatMap, CursorState.visited?]

def visitAfter (tree : Tree) (top : Nat) : CursorState → List Nat
  | .entering node => tree.visitFrom top node
  | .leaving node => ((tree.climb top node).map (tree.visitFrom top)).getD []

theorem visitFrom_cons (tree : Tree) (top node : Nat) :
    tree.visitFrom top node =
      node :: ((tree.following? top node).map (tree.visitFrom top)).getD [] := by
  rw [visitFrom]
  split
  · next found => simp [found]
  · next stuck => simp [stuck]

theorem climb_eq_or (apart : node ≠ top) :
    tree.climb top node =
      (tree.nextSibling? node).or ((tree.parent? node).bind (tree.climb top)) := by
  rw [climb, if_neg apart]
  cases tree.nextSibling? node with
  | some sibling => rfl
  | none =>
    simp only [Option.none_or]
    split
    · next upward => simp [upward]
    · next orphan => simp [orphan]

theorem visitAfter_of_next? {state next : CursorState} (move : state.next? tree top = some next) :
    tree.visitAfter top state = state.visited?.toList ++ tree.visitAfter top next := by
  cases state with
  | entering node =>
    rw [visitAfter, visitFrom_cons, following?]
    rw [CursorState.next?] at move
    cases down : tree.firstChild? node with
    | some child =>
      rw [down] at move
      cases move
      rfl
    | none =>
      rw [down] at move
      cases move
      rfl
  | leaving node =>
    by_cases apart : node = top
    · simp [CursorState.next?, apart] at move
    · rw [visitAfter, climb_eq_or apart]
      rw [CursorState.next?, if_neg apart] at move
      cases across : tree.nextSibling? node with
      | some sibling =>
        rw [across] at move
        cases move
        rfl
      | none =>
        rw [across] at move
        obtain ⟨parent, upward, rfl⟩ := Option.map_eq_some_iff.mp move
        simp [upward, visitAfter, CursorState.visited?]

theorem visitAfter_of_stuck {state : CursorState} (stuck : state.next? tree top = none) :
    state.visited? = none ∧ tree.visitAfter top state = [] := by
  cases state with
  | entering node => simp [next?_entering] at stuck
  | leaving node =>
    refine ⟨rfl, ?_⟩
    by_cases apart : node = top
    · rw [visitAfter, climb, if_pos apart]
      rfl
    · rw [CursorState.next?, if_neg apart] at stuck
      rw [visitAfter, climb_eq_or apart]
      cases across : tree.nextSibling? node with
      | some sibling => simp [across] at stuck
      | none =>
        rw [across, Option.map_eq_none_iff] at stuck
        simp [stuck]

/-- The nodes that are visited are those that the cursor enters. The induction follows its moves. -/
theorem Trail.visited_eq {state : CursorState} {states : List CursorState}
    (trail : tree.Trail top state states) :
    states.filterMap CursorState.visited? = tree.visitAfter top state := by
  induction trail with
  | ends stuck =>
    obtain ⟨silent, nothing⟩ := visitAfter_of_stuck stuck
    simp [silent, nothing]
  | @goes state next onward move trail inductionHypothesis =>
    rw [visitAfter_of_next? move, ← inductionHypothesis, List.filterMap_cons]
    cases state.visited? <;> rfl

theorem visitSubtree_eq_preorder (tree : Tree) (node : Nat) :
    tree.visitSubtree node = tree.preorder node :=
  calc tree.visitSubtree node = tree.visitAfter node (.entering node) := rfl
    _ = (tree.tour node).filterMap CursorState.visited? := (trail_tour tree node).visited_eq.symm
    _ = tree.preorder node := filterMap_visited?_tour tree node

theorem mem_preorder_iff {other : Nat} : other ∈ tree.preorder node ↔ tree.IsAround node other := by
  rw [← visitSubtree_eq_preorder, visitSubtree_eq, mem_between, IsAround, isAbove_iff]
  have own := tree.lt_subtreeEnd_self node
  omega

theorem nodup_preorder (tree : Tree) (node : Nat) : (tree.preorder node).Nodup := by
  rw [← visitSubtree_eq_preorder, visitSubtree_eq]
  exact List.nodup_range'

/-- A walk of the subtree of a node: it visits the node and then the subtrees of its children. -/
def walkBelow (tree : Tree) (flag : Flag) (top : Nat) : Walk :=
  let below := tree.walkSubtrees flag (tree.children top)
  { below with visited := top :: below.visited }

theorem walkSubtrees_of_firstRaised {flag : Flag} {tops : List Nat} {poll : Nat}
    (raised : flag.FirstRaised poll) (within : poll ≤ tops.length) :
    tree.walkSubtrees flag tops =
      { visited := (tops.take poll).flatMap tree.visitSubtree, finished := false,
        asked := poll + 1 } := by
  induction tops generalizing flag poll with
  | nil =>
    obtain rfl : poll = 0 := Nat.le_zero.mp within
    simp [walkSubtrees, raised.now]
  | cons top rest inductionHypothesis =>
    cases poll with
    | zero => simp [walkSubtrees, raised.now]
    | succ poll =>
      have lowered : flag 0 = false := raised.before 0 (Nat.succ_pos poll)
      have later := inductionHypothesis raised.after_one (Nat.le_of_succ_le_succ within)
      rw [walkSubtrees, later]
      simp [lowered, Nat.add_comm]

/-- What a walk below a node has done under a flag. -/
structure GoesInPreorder (tree : Tree) (flag : Flag) (top : Nat) (seen : Walk) : Prop where
  /-- Around the subtree of each child the moves of the cursor come to an end, and the nodes that it
  enters on the way are those of the subtree in pre-order. -/
  around : ∀ child ∈ tree.children top, tree.Trail child (.entering child) (tree.tour child) ∧
    (tree.tour child).filterMap CursorState.visited? = tree.preorder child
  finished_iff : seen.finished = true ↔ ∀ poll ≤ (tree.children top).length, flag poll = false
  whole : seen.finished = true → seen.visited = tree.preorder top
  /-- A walk that was stopped has visited the children before the poll that saw the flag. -/
  stopped : seen.finished = false → ∃ poll ≤ (tree.children top).length, flag.FirstRaised poll ∧
    seen.visited = top :: ((tree.children top).take poll).flatMap tree.preorder ∧
    (poll = (tree.children top).length → seen.visited = tree.preorder top)
  distinct : seen.visited.Nodup
  within : ∀ node ∈ seen.visited, tree.IsAround top node

theorem sublist_preorder (tree : Tree) (top count : Nat) :
    (top :: ((tree.children top).take count).flatMap tree.preorder).Sublist
      (tree.preorder top) := by
  have split := congrArg (List.flatMap tree.preorder)
    (List.take_append_drop count (tree.children top))
  rw [List.flatMap_append] at split
  rw [preorder_eq, ← split]
  exact (List.sublist_append_left _ _).cons_cons top

theorem walkBelow_of_lowered {flag : Flag}
    (lowered : ∀ poll ≤ (tree.children top).length, flag poll = false) :
    tree.walkBelow flag top =
      { visited := tree.preorder top, finished := true,
        asked := (tree.children top).length + 1 } := by
  rw [walkBelow, walkSubtrees_of_lowered tree lowered, preorder_eq,
    funext tree.visitSubtree_eq_preorder]

theorem walkBelow_of_firstRaised {flag : Flag} {poll : Nat} (raised : flag.FirstRaised poll)
    (within : poll ≤ (tree.children top).length) :
    tree.walkBelow flag top =
      { visited := top :: ((tree.children top).take poll).flatMap tree.preorder, finished := false,
        asked := poll + 1 } := by
  rw [walkBelow, walkSubtrees_of_firstRaised raised within, funext tree.visitSubtree_eq_preorder]

/-- **Walks go in pre-order.** A walk below a node visits the node and then its children's subtrees,
each in pre-order, and no node outside or twice. If no poll sees the flag raised, then it visits the
whole subtree, and otherwise the subtrees of the children before the first poll that sees it. The
walk of a tree is the one below its root, and its pre-order is the order of the table. -/
theorem walkBelow_goesInPreorder (tree : Tree) (flag : Flag) :
    (∀ top, tree.GoesInPreorder flag top (tree.walkBelow flag top)) ∧
      tree.walk flag = tree.walkBelow flag tree.root ∧
      tree.preorder tree.root = List.range tree.size := by
  refine ⟨fun top => ?walks, rfl, ?table⟩
  case walks =>
    have around (child : Nat) (_ : child ∈ tree.children top) :=
      And.intro (trail_tour tree child) (filterMap_visited?_tour tree child)
    rcases flag.lowered_or_firstRaised (tree.children top).length with
      lowered | ⟨poll, within, raised⟩
    · rw [walkBelow_of_lowered lowered]
      exact
        { around
          finished_iff := iff_of_true rfl lowered
          whole := fun _ => rfl
          stopped := fun cancelled => by simp at cancelled
          distinct := nodup_preorder tree top
          within := fun _ => mem_preorder_iff.mp }
    · rw [walkBelow_of_firstRaised raised within]
      have sublist := sublist_preorder tree top poll
      exact
        { around
          finished_iff := iff_of_false (by simp) fun lowered =>
            absurd raised.now (by simp [lowered poll within])
          whole := fun complete => by simp at complete
          stopped := fun _ => ⟨poll, within, raised, rfl, fun last => by
            rw [last, List.take_length, preorder_eq]⟩
          distinct := (nodup_preorder tree top).sublist sublist
          within := fun _ visited => mem_preorder_iff.mp (sublist.subset visited) }
  case table =>
    have undisturbed : tree.walkBelow .lowered tree.root = _ :=
      walkBelow_of_lowered fun _ _ => rfl
    calc tree.preorder tree.root = (tree.walkBelow .lowered tree.root).visited := by
          rw [undisturbed]
      _ = tree.walkOrder := rfl
      _ = List.range tree.size := tree.walkOrder_eq

end Tree

end PromiseDetection

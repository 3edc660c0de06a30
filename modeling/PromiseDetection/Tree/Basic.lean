import PromiseDetection.Tree.Kind

/-!
Syntax trees as tables in document order.

A node is its position in the table, so two nodes are the same exactly when their positions are.
Every node records its parent and the end of its subtree, and the subtree of a node is the interval
of positions from the node up to that end. `Tree.Nested` states how the intervals fit together, and
a table that does not satisfy it is not a tree.
-/

namespace PromiseDetection

/-- What the grammar says about one node: its kind, the role it plays for its parent, the half-open
range of bytes it covers, and its parent. -/
structure Node where
  kind : Kind
  isNamed : Bool
  field? : Option Field
  start : Nat
  stop : Nat
  parent? : Option Nat
  deriving Repr, Inhabited, DecidableEq

namespace Tree

def parentIn (nodes : Array Node) (position : Nat) : Option Nat :=
  nodes[position]?.bind (·.parent?)

def endIn (ends : Array Nat) (position : Nat) : Nat :=
  ends[position]?.getD (position + 1)

/-- How the subtree at one position fits into the table: it lies inside the subtree of its parent,
the position after the node opens its first child, and the position after its subtree opens its
next sibling. Only the first position has no parent. -/
def Nested (nodes : Array Node) (ends : Array Nat) (position : Nat) : Prop :=
  position < endIn ends position ∧ endIn ends position ≤ nodes.size ∧
  (position + 1 < endIn ends position → parentIn nodes (position + 1) = some position) ∧
  match parentIn nodes position with
  | none => position = 0 ∧ endIn ends position = nodes.size
  | some parent =>
    parent < position ∧ endIn ends position ≤ endIn ends parent ∧
    (endIn ends position < endIn ends parent →
      parentIn nodes (endIn ends position) = some parent)

instance (nodes : Array Node) (ends : Array Nat) (position : Nat) :
    Decidable (Nested nodes ends position) := by
  unfold Nested
  cases parentIn nodes position <;> infer_instance

end Tree

/-- A syntax tree. Position 0 is the root. -/
structure Tree where
  nodes : Array Node
  ends : Array Nat
  nonempty : 0 < nodes.size
  ends_size : ends.size = nodes.size
  nested : ∀ position, position < nodes.size → Tree.Nested nodes ends position

namespace Tree

def size (tree : Tree) : Nat := tree.nodes.size

def root (_ : Tree) : Nat := 0

def parent? (tree : Tree) (position : Nat) : Option Nat := parentIn tree.nodes position

/-- The position after the last descendant of a node. -/
def subtreeEnd (tree : Tree) (position : Nat) : Nat := endIn tree.ends position

/-- The kind of a node; a position outside the tree has a kind without a name. -/
def kind (tree : Tree) (position : Nat) : Kind :=
  (tree.nodes[position]?.map (·.kind)).getD (.other "")

def isNamed (tree : Tree) (position : Nat) : Bool :=
  (tree.nodes[position]?.map (·.isNamed)).getD false

def field? (tree : Tree) (position : Nat) : Option Field :=
  tree.nodes[position]?.bind (·.field?)

def start (tree : Tree) (position : Nat) : Nat :=
  (tree.nodes[position]?.map (·.start)).getD 0

def stop (tree : Tree) (position : Nat) : Nat :=
  (tree.nodes[position]?.map (·.stop)).getD 0

theorem lt_size_of_parent? {tree : Tree} {position parent : Nat}
    (found : tree.parent? position = some parent) : position < tree.size := by
  unfold parent? parentIn at found
  by_cases inside : position < tree.nodes.size
  · exact inside
  · simp [Array.getElem?_eq_none (Nat.le_of_not_lt inside)] at found

theorem parent?_lt {tree : Tree} {position parent : Nat}
    (found : tree.parent? position = some parent) : parent < position := by
  have fits := tree.nested position (lt_size_of_parent? found)
  have found' : parentIn tree.nodes position = some parent := found
  unfold Nested at fits
  simp only [found'] at fits
  exact fits.2.2.2.1

theorem subtreeEnd_le_of_parent? {tree : Tree} {position parent : Nat}
    (found : tree.parent? position = some parent) :
    tree.subtreeEnd position ≤ tree.subtreeEnd parent := by
  have fits := tree.nested position (lt_size_of_parent? found)
  have found' : parentIn tree.nodes position = some parent := found
  unfold Nested at fits
  simp only [found'] at fits
  exact fits.2.2.2.2.1

theorem lt_subtreeEnd {tree : Tree} {position : Nat} (inside : position < tree.size) :
    position < tree.subtreeEnd position :=
  (tree.nested position inside).1

theorem subtreeEnd_le_size {tree : Tree} {position : Nat} (inside : position < tree.size) :
    tree.subtreeEnd position ≤ tree.size :=
  (tree.nested position inside).2.1

theorem parent?_first {tree : Tree} {position : Nat} (inside : position < tree.size)
    (opens : position + 1 < tree.subtreeEnd position) :
    tree.parent? (position + 1) = some position :=
  (tree.nested position inside).2.2.1 opens

theorem parent?_next {tree : Tree} {position parent : Nat}
    (found : tree.parent? position = some parent)
    (before : tree.subtreeEnd position < tree.subtreeEnd parent) :
    tree.parent? (tree.subtreeEnd position) = some parent := by
  have fits := tree.nested position (lt_size_of_parent? found)
  have found' : parentIn tree.nodes position = some parent := found
  unfold Nested at fits
  simp only [found'] at fits
  exact fits.2.2.2.2.2 before

theorem parent?_eq_none_iff {tree : Tree} {position : Nat} (inside : position < tree.size) :
    tree.parent? position = none ↔ position = 0 := by
  constructor
  · intro orphan
    have orphan' : parentIn tree.nodes position = none := orphan
    have fits := tree.nested position inside
    unfold Nested at fits
    simp only [orphan'] at fits
    exact fits.2.2.2.1
  · intro first
    cases found : tree.parent? position with
    | none => rfl
    | some parent =>
      have below := parent?_lt found
      omega

theorem parent?_of_size_le {tree : Tree} {position : Nat} (outside : tree.size ≤ position) :
    tree.parent? position = none := by
  cases found : tree.parent? position with
  | none => rfl
  | some parent =>
    have inside := lt_size_of_parent? found
    omega

theorem subtreeEnd_of_size_le {tree : Tree} {position : Nat} (outside : tree.size ≤ position) :
    tree.subtreeEnd position = position + 1 := by
  have missing : tree.ends[position]? = none :=
    Array.getElem?_eq_none (by rw [tree.ends_size]; exact outside)
  simp [subtreeEnd, endIn, missing]

def children (tree : Tree) (position : Nat) : List Nat :=
  (List.range' (position + 1) (tree.subtreeEnd position - (position + 1))).filter
    fun child => tree.parent? child = some position

/-- The children that are not bare tokens. -/
def namedChildren (tree : Tree) (position : Nat) : List Nat :=
  (tree.children position).filter tree.isNamed

def childWith? (tree : Tree) (position : Nat) (role : Field) : Option Nat :=
  (tree.children position).find? fun child => tree.field? child = some role

/-- The first child of a kind, named or token. -/
def childOfKind? (tree : Tree) (position : Nat) (kind : Kind) : Option Nat :=
  (tree.children position).find? fun child => tree.kind child = kind

/-- The first named child that is not a comment. -/
def firstOperand? (tree : Tree) (position : Nat) : Option Nat :=
  (tree.namedChildren position).find? fun child => tree.kind child ≠ .comment

theorem parent?_of_mem_children {tree : Tree} {position child : Nat}
    (membership : child ∈ tree.children position) : tree.parent? child = some position := by
  simpa [children] using (List.mem_filter.mp membership).2

theorem lt_of_mem_children {tree : Tree} {position child : Nat}
    (membership : child ∈ tree.children position) : position < child :=
  parent?_lt (parent?_of_mem_children membership)

theorem lt_size_of_mem_children {tree : Tree} {position child : Nat}
    (membership : child ∈ tree.children position) : child < tree.size :=
  lt_size_of_parent? (parent?_of_mem_children membership)

theorem mem_children_of_mem_namedChildren {tree : Tree} {position child : Nat}
    (membership : child ∈ tree.namedChildren position) : child ∈ tree.children position :=
  (List.mem_filter.mp membership).1

theorem mem_children_of_childWith? {tree : Tree} {position child : Nat} {role : Field}
    (found : tree.childWith? position role = some child) : child ∈ tree.children position :=
  List.mem_of_find?_eq_some found

theorem mem_children_of_childOfKind? {tree : Tree} {position child : Nat} {kind : Kind}
    (found : tree.childOfKind? position kind = some child) : child ∈ tree.children position :=
  List.mem_of_find?_eq_some found

theorem mem_children_of_firstOperand? {tree : Tree} {position child : Nat}
    (found : tree.firstOperand? position = some child) : child ∈ tree.children position :=
  mem_children_of_mem_namedChildren (List.mem_of_find?_eq_some found)

theorem remaining_lt_of_mem_children {tree : Tree} {position child : Nat}
    (membership : child ∈ tree.children position) :
    tree.size - child < tree.size - position := by
  have below := lt_of_mem_children membership
  have inside := lt_size_of_mem_children membership
  omega

/-- The ends of all subtrees, found by letting every node extend its parent, last node first. -/
def endsOf (nodes : Array Node) : Array Nat :=
  (List.range nodes.size).foldr
    (fun position ends =>
      match parentIn nodes position with
      | none => ends
      | some parent =>
        ends.setIfInBounds parent (max (endIn ends parent) (endIn ends position)))
    (Array.ofFn fun position : Fin nodes.size => position.val + 1)

/-- The tree that a table of nodes describes, if its subtrees are nested in document order. -/
def ofNodes? (nodes : Array Node) : Option Tree :=
  let ends := endsOf nodes
  if shape : 0 < nodes.size ∧ ends.size = nodes.size then
    if nested : ((List.range nodes.size).all fun position => Nested nodes ends position) = true then
      some
        { nodes, ends
          nonempty := shape.1
          ends_size := shape.2
          nested := fun position inside => by
            simpa using List.all_eq_true.mp nested position (List.mem_range.mpr inside) }
    else none
  else none

def single (kind : Kind) (stop : Nat) : Tree where
  nodes := #[{ kind, isNamed := true, field? := none, start := 0, stop, parent? := none }]
  ends := #[1]
  nonempty := by simp
  ends_size := by simp
  nested := by
    intro position inside
    have first : position = 0 := by simpa using inside
    subst first
    simp [Nested, endIn, parentIn]

instance : Inhabited Tree := ⟨single .program 0⟩

end Tree

end PromiseDetection

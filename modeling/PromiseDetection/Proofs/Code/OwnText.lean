import Mathlib.Tactic.MkIffOfInductiveProp
import PromiseDetection.Code.Document
import PromiseDetection.Proofs.Text.Slice
import PromiseDetection.Proofs.Tree.Ancestors

/-!
The own text of comments and literals, and what a document says without it.

A comment, a regular expression, a string or a template has a text of its own: what it covers, less
the code that stands inside a template. A string that is a key is a name and has no text of its own
in this sense. In a tree as the grammar makes it no name lies in the own text of anything, so
documents that differ there alone have the same names and keys.
-/

namespace PromiseDetection

def Kind.isName : Kind → Bool
  | .identifier | .typeIdentifier | .propertyIdentifier | .privatePropertyIdentifier
  | .shorthandProperty | .numberLiteral => true
  | _ => false

def Kind.isProse : Kind → Bool
  | .comment | .stringLiteral | .templateString => true
  | .other name => name == "regex" || name == "html_comment"
  | _ => false

def Kind.keyRoles : Kind → List Field
  | .pair => [.key]
  | .methodDefinition => [.name]
  | .publicFieldDefinition | .fieldDefinition => [.name, .property]
  | _ => []

theorem Kind.isProse_of_isName {kind : Kind} (name : kind.isName = true) :
    kind.isProse = false := by
  cases kind <;> first | rfl | cases name

theorem Kind.isProse_of_mem_keyRoles {kind : Kind} {role : Field} (keyed : role ∈ kind.keyRoles) :
    kind.isProse = false := by
  cases kind <;> first | rfl | cases keyed

namespace Tree

variable {tree : Tree} {node child offset : Nat}

def isKey (tree : Tree) (node : Nat) : Bool :=
  tree.kind node = .stringLiteral &&
    (tree.parent? node).any fun parent =>
      (tree.kind parent).keyRoles.any fun role => tree.holds parent role node

def isProse (tree : Tree) (node : Nat) : Bool :=
  (tree.kind node).isProse && !tree.isKey node

/-- Is a node a bare part of the node around it, such as a quotation mark or a fragment of text? -/
def isToken (tree : Tree) (node : Nat) : Bool :=
  (tree.children node).isEmpty && !(tree.kind node).isName

def Covers (tree : Tree) (node offset : Nat) : Prop :=
  tree.start node ≤ offset ∧ offset < tree.stop node

instance (tree : Tree) (node offset : Nat) : Decidable (tree.Covers node offset) :=
  inferInstanceAs (Decidable (_ ∧ _))

/-- The byte at an offset belongs to a comment or a literal. -/
def InProse (tree : Tree) (offset : Nat) : Prop :=
  ∃ node < tree.size, tree.isProse node = true ∧ tree.Covers node offset

instance (tree : Tree) (offset : Nat) : Decidable (tree.InProse offset) :=
  inferInstanceAs (Decidable (∃ node < tree.size, _))

/-- The byte at an offset belongs to a comment or a literal, and to no code inside of it. -/
def InOwnText (tree : Tree) (offset : Nat) : Prop :=
  ∃ node < tree.size, tree.isProse node = true ∧ tree.Covers node offset ∧
    ∀ child ∈ tree.children node, tree.Covers child offset → tree.isToken child = true

instance (tree : Tree) (offset : Nat) : Decidable (tree.InOwnText offset) :=
  inferInstanceAs (Decidable (∃ node < tree.size, _))

/-- What the grammar promises about a tree: its nodes are laid out in a text, names are leaves, a
key is made of plain parts, and declarations, members and types are named by names. -/
@[mk_iff]
structure IsGrammatical (tree : Tree) : Prop where
  laid : tree.Laid
  names : ∀ node < tree.size, (tree.kind node).isName = true → tree.children node = []
  keys : ∀ node < tree.size, tree.isKey node = true → ∀ child ∈ tree.children node,
    tree.children child = [] ∧ (tree.kind child).isProse = false
  classes : ∀ node < tree.size, tree.isClass node = true →
    (tree.childWith? node .name).all (fun name => (tree.kind name).isName) = true
  functions : ∀ node < tree.size,
    tree.kind node = .functionDeclaration ∨ tree.kind node = .generatorDeclaration →
      (tree.childWith? node .name).all (fun name => (tree.kind name).isName) = true
  members : ∀ node < tree.size, tree.kind node = .memberExpression →
    (tree.childWith? node .property).all (fun name => (tree.kind name).isName) = true
  types : ∀ node < tree.size, tree.kind node = .genericType →
    (tree.childWith? node .name).all
      (fun name => (tree.kind name).isName || tree.kind name = .nestedTypeIdentifier) = true

instance (tree : Tree) : Decidable tree.IsGrammatical :=
  decidable_of_iff' _ (isGrammatical_iff tree)

end Tree

/-- A document with a tree as the grammar makes it. The name of a type in a namespace has a point in
it. -/
@[mk_iff]
structure Document.IsParsed (document : Document) : Prop where
  grammatical : document.tree.IsGrammatical
  namespaces : ∀ node < document.tree.size, document.tree.kind node = .nestedTypeIdentifier →
    '.' ∈ (document.textOf node).toList

instance (document : Document) : Decidable document.IsParsed :=
  decidable_of_iff' _ document.isParsed_iff

namespace Tree

variable {tree : Tree} {node child offset above : Nat}

theorem Laid.inside_above (laid : tree.Laid) (outer : tree.IsAbove above node) :
    tree.start above ≤ tree.start node ∧ tree.stop node ≤ tree.stop above := by
  induction outer with
  | single found => exact laid.inside_parent found
  | tail _ found inductionHypothesis =>
    have closer := laid.inside_parent found
    omega

theorem Laid.covers_above (laid : tree.Laid) (outer : tree.IsAbove above node)
    (covers : tree.Covers node offset) : tree.Covers above offset := by
  have inside := laid.inside_above outer
  unfold Covers at covers ⊢
  omega

theorem not_isAbove_of_leaf (leaf : tree.children above = []) : ¬ tree.IsAbove above node := by
  intro outer
  obtain ⟨child, membership, -⟩ := outer.exists_child
  rw [leaf] at membership
  cases membership

theorem lt_size_of_kind {kind : Kind} (found : tree.kind node = kind) (known : kind ≠ .other "") :
    node < tree.size := by
  by_contra outside
  apply known
  rw [← found, Tree.kind, Array.getElem?_eq_none (Nat.le_of_not_lt outside)]
  rfl

theorem isKey_iff :
    tree.isKey node = true ↔
      tree.kind node = .stringLiteral ∧
        ∃ parent, ∃ role ∈ (tree.kind parent).keyRoles,
          tree.childWith? parent role = some node := by
  simp only [isKey, holds, Bool.and_eq_true, decide_eq_true_eq, Option.any_eq_true,
    List.any_eq_true]
  apply and_congr_right
  intro _
  constructor
  · rintro ⟨parent, -, role, keyed, held⟩
    exact ⟨parent, role, keyed, held⟩
  · rintro ⟨parent, role, keyed, held⟩
    exact ⟨parent, parent?_of_mem_children (mem_children_of_childWith? held), role, keyed, held⟩

theorem lt_size_of_holder {role : Field} (found : tree.childWith? node role = some child) :
    node < tree.size := by
  have membership := mem_children_of_childWith? found
  exact Nat.lt_trans (lt_of_mem_children membership) (lt_size_of_mem_children membership)

theorem isProse_parent_of_isKey {parent : Nat} (key : tree.isKey node = true)
    (found : tree.parent? node = some parent) : (tree.kind parent).isProse = false := by
  obtain ⟨-, holder, role, keyed, held⟩ := isKey_iff.mp key
  have upward := parent?_of_mem_children (mem_children_of_childWith? held)
  rw [found] at upward
  cases upward
  exact Kind.isProse_of_mem_keyRoles keyed

theorem Laid.exists_code (laid : tree.Laid) {literal : Nat} (above : tree.IsAbove literal node)
    (prose : (tree.kind literal).isProse = true)
    (named : (tree.kind node).isName = true ∨ tree.isKey node = true)
    (covers : tree.Covers node offset) :
    ∃ child ∈ tree.children literal, tree.Covers child offset ∧ tree.isToken child = false := by
  obtain ⟨child, membership, path⟩ := above.exists_child
  rcases path with rfl | deeper
  · refine ⟨child, membership, covers, ?_⟩
    rcases named with name | key
    · rw [isToken, name, Bool.not_true, Bool.and_false]
    · rw [isProse_parent_of_isKey key (parent?_of_mem_children membership)] at prose
      cases prose
  · refine ⟨child, membership, laid.covers_above deeper covers, ?_⟩
    rw [isToken, Bool.and_eq_false_iff, List.isEmpty_eq_false_iff]
    exact .inl fun leaf => not_isAbove_of_leaf leaf deeper

theorem IsGrammatical.isProse_below (grammatical : tree.IsGrammatical) (inside : node < tree.size)
    (named : (tree.kind node).isName = true ∨ tree.isKey node = true) {below : Nat}
    (above : tree.IsAbove node below) : (tree.kind below).isProse = false := by
  rcases named with name | key
  · exact absurd above (not_isAbove_of_leaf (grammatical.names node inside name))
  · obtain ⟨child, membership, path⟩ := above.exists_child
    obtain ⟨leaf, plain⟩ := grammatical.keys node inside key child membership
    rcases path with rfl | deeper
    · exact plain
    · exact absurd deeper (not_isAbove_of_leaf leaf)

theorem Laid.nested_of_covers (laid : tree.Laid) {first second : Nat} (inside : first < tree.size)
    (insideToo : second < tree.size) (covers : tree.Covers first offset)
    (coversToo : tree.Covers second offset) :
    first = second ∨ tree.IsAbove first second ∨ tree.IsAbove second first := by
  unfold Covers at covers coversToo
  rcases Nat.lt_trichotomy first second with before | same | behind
  · by_contra beside
    have apart := laid.separated before insideToo fun above => beside (.inr (.inl above))
    omega
  · exact .inl same
  · by_contra beside
    have apart := laid.separated behind inside fun above => beside (.inr (.inr above))
    omega

/-- **Names are no prose.** No byte of a name or a key belongs to the own text of a comment or a
literal. -/
theorem IsGrammatical.not_inOwnText (grammatical : tree.IsGrammatical) (inside : node < tree.size)
    (named : (tree.kind node).isName = true ∨ tree.isKey node = true)
    (covers : tree.Covers node offset) : ¬ tree.InOwnText offset := by
  rintro ⟨literal, inTree, prose, covered, tokens⟩
  have kind : (tree.kind literal).isProse = true ∧ tree.isKey literal = false := by
    simpa [isProse] using prose
  rcases grammatical.laid.nested_of_covers inTree inside covered covers with rfl | above | above
  · rcases named with name | key
    · rw [Kind.isProse_of_isName name] at kind
      cases kind.1
    · rw [key] at kind
      cases kind.2
  · obtain ⟨child, membership, inChild, code⟩ :=
      grammatical.laid.exists_code above kind.1 named covers
    rw [tokens child membership inChild] at code
    cases code
  · rw [grammatical.isProse_below inside named above] at kind
    cases kind.1

end Tree

namespace Document

variable {document other : Document} {node : Nat}

/-- The texts of two documents have the same bytes, except for those in some places. -/
def AgreesOutside (document other : Document) (hidden : Nat → Prop) : Prop :=
  ∀ offset, ¬ hidden offset →
    Text.byteAt? other.text offset = Text.byteAt? document.text offset

/-- Two documents of one shape say the same wherever a name or a key is read. -/
structure Retells (document other : Document) : Prop where
  tree : other.tree = document.tree
  names : ∀ node, (document.tree.kind node).isName = true →
    other.textOf node = document.textOf node
  keys : ∀ node, document.tree.isKey node = true →
    other.literalText node = document.literalText node
  classes : ∀ node name, document.tree.isClass node = true →
    document.tree.childWith? node .name = some name → other.textOf name = document.textOf name
  functions : ∀ node name, document.tree.kind node = .functionDeclaration ∨
      document.tree.kind node = .generatorDeclaration →
    document.tree.childWith? node .name = some name → other.textOf name = document.textOf name
  members : ∀ node name, document.tree.kind node = .memberExpression →
    document.tree.childWith? node .property = some name →
      other.textOf name = document.textOf name
  types : ∀ node name, document.tree.kind node = .genericType →
    document.tree.childWith? node .name = some name →
      (other.textOf name == "Promise") = (document.textOf name == "Promise")

theorem lt_size_of_isName (name : (document.tree.kind node).isName = true) :
    node < document.tree.size := by
  apply Tree.lt_size_of_kind rfl
  intro absent
  rw [absent] at name
  cases name

theorem slice_eq (grammatical : document.tree.IsGrammatical) (inside : node < document.tree.size)
    (named : (document.tree.kind node).isName = true ∨ document.tree.isKey node = true)
    (agrees : document.AgreesOutside other document.tree.InOwnText) {start stop : Nat}
    (first : document.tree.start node ≤ start) (last : stop ≤ document.tree.stop node) :
    Text.slice other.text start stop = Text.slice document.text start stop := by
  apply Text.slice_congr
  intro offset after before
  apply agrees
  exact grammatical.not_inOwnText inside named
    ⟨Nat.le_trans first after, Nat.lt_of_lt_of_le before last⟩

theorem textOf_eq (grammatical : document.tree.IsGrammatical) (same : other.tree = document.tree)
    (inside : node < document.tree.size)
    (named : (document.tree.kind node).isName = true ∨ document.tree.isKey node = true)
    (agrees : document.AgreesOutside other document.tree.InOwnText) :
    other.textOf node = document.textOf node := by
  rw [textOf, same]
  exact slice_eq grammatical inside named agrees (Nat.le_refl _) (Nat.le_refl _)

theorem literalText_eq (grammatical : document.tree.IsGrammatical)
    (same : other.tree = document.tree) (key : document.tree.isKey node = true)
    (agrees : document.AgreesOutside other document.tree.InOwnText) :
    other.literalText node = document.literalText node := by
  have inside : node < document.tree.size :=
    Tree.lt_size_of_kind (Tree.isKey_iff.mp key).1 (by decide)
  unfold literalText
  rw [same]
  cases found : document.tree.childOfKind? node .stringFragment with
  | none =>
    dsimp only
    rw [textOf_eq grammatical same inside (.inr key) agrees]
  | some fragment =>
    have within := grammatical.laid.inside node inside fragment
      (Tree.mem_children_of_childOfKind? found)
    dsimp only
    rw [textOf, same]
    exact slice_eq grammatical inside (.inr key) agrees within.1 within.2

theorem beq_promise_of_point {text : String} (point : '.' ∈ text.toList) :
    (text == "Promise") = false := by
  rw [beq_eq_false_iff_ne]
  rintro rfl
  exact absurd point (by decide)

/-- Documents that differ in the own text of comments and literals alone retell each other. -/
theorem IsParsed.retells (parsed : document.IsParsed) (parsedToo : other.IsParsed)
    (same : other.tree = document.tree)
    (agrees : document.AgreesOutside other document.tree.InOwnText) : document.Retells other := by
  have names (node : Nat) (name : (document.tree.kind node).isName = true) :
      other.textOf node = document.textOf node :=
    textOf_eq parsed.grammatical same (lt_size_of_isName name) (.inl name) agrees
  have named {parent name : Nat} {role : Field}
      (all : (document.tree.childWith? parent role).all
        (fun name => (document.tree.kind name).isName) = true)
      (found : document.tree.childWith? parent role = some name) :
      other.textOf name = document.textOf name := by
    rw [found] at all
    exact names name all
  refine ⟨same, names, fun node key => literalText_eq parsed.grammatical same key agrees, ?classes,
    ?functions, ?members, ?types⟩
  case classes =>
    intro node name owner found
    exact named (parsed.grammatical.classes node (Tree.lt_size_of_holder found) owner) found
  case functions =>
    intro node name kind found
    exact named (parsed.grammatical.functions node (Tree.lt_size_of_holder found) kind) found
  case members =>
    intro node name kind found
    exact named (parsed.grammatical.members node (Tree.lt_size_of_holder found) kind) found
  case types =>
    intro node name kind found
    have all := parsed.grammatical.types node (Tree.lt_size_of_holder found) kind
    rw [found, Option.all_some, Bool.or_eq_true, decide_eq_true_eq] at all
    rcases all with plain | nested
    · rw [names name plain]
    · have inside : name < document.tree.size := Tree.lt_size_of_childWith? found
      rw [beq_promise_of_point (parsed.namespaces name inside nested),
        beq_promise_of_point (parsedToo.namespaces name (same ▸ inside) (same ▸ nested))]

end Document

end PromiseDetection

import PromiseDetection.Code.Shape
import PromiseDetection.Proofs.Tree.Ancestors

/-!
The value of `this`.

`this` has its value from the innermost construct around it that gives it one: a function other than
an arrow function, a method, the value of a field, or a static block. Arrow functions and all other
nodes pass it on. The class that is looked up for a node takes a shorter way: it is the nearest
class around the node, unless a function that is neither an arrow function nor a method comes first.

Both are nearest nodes above, so `nearestAbove?_eq_some_iff` says of both what they skip. The class
is the right one exactly if the node lies in a method or in the value of a field directly in the
body of the class, and in no other method, value of a field or static block inside of that member.
The method of an object literal is such a method, and the search for the class goes past it.
-/

namespace PromiseDetection.Tree

def parentIf? (tree : Tree) (test : Nat → Nat → Bool) (child : Nat) : Option Nat :=
  (tree.parent? child).filter fun parent => test parent child

def nearestAbove? (tree : Tree) (test : Nat → Nat → Bool) (position : Nat) : Option Nat :=
  tree.firstAround? (tree.parentIf? test) position

def Meets (tree : Tree) (test : Nat → Nat → Bool) (above node : Nat) : Prop :=
  ∃ child, tree.IsAround child node ∧ tree.parentIf? test child = some above

variable {tree : Tree} {test : Nat → Nat → Bool} {above child node : Nat}

theorem parentIf?_eq_some_iff :
    tree.parentIf? test child = some above ↔ tree.parent? child = some above ∧ test above child := by
  rw [parentIf?, Option.filter_eq_some_iff]

theorem Meets.isAbove (met : tree.Meets test above node) : tree.IsAbove above node := by
  obtain ⟨child, around, passes⟩ := met
  exact isAbove_of_isAround (parentIf?_eq_some_iff.mp passes).1 around

/-- **The nearest one.** The walk up ends at a node that passes the test, and at none below it does
the test succeed. -/
theorem nearestAbove?_eq_some_iff :
    tree.nearestAbove? test node = some above ↔
      tree.Meets test above node ∧
        ∀ closer, tree.IsAbove above closer → ¬ tree.Meets test closer node := by
  rw [nearestAbove?, firstAround?_eq_some_iff]
  constructor
  · rintro ⟨child, around, passes, nearest⟩
    refine ⟨⟨child, around, passes⟩, ?_⟩
    rintro closer lower ⟨later, aroundToo, passesToo⟩
    have found := (parentIf?_eq_some_iff.mp passes).1
    have foundToo := (parentIf?_eq_some_iff.mp passesToo).1
    have deeper : tree.IsAbove child later := by
      rcases isAround_or_isAbove aroundToo around with outer | inner
      · have order := ((isAbove_iff_of_parent? found).mp
          (isAbove_of_isAround foundToo outer)).le
        exact absurd lower.lt (Nat.not_lt.mpr order)
      · exact inner
    simp [nearest later deeper aroundToo] at passesToo
  · rintro ⟨⟨child, around, passes⟩, nearest⟩
    refine ⟨child, around, passes, fun later deeper aroundToo => ?_⟩
    have found := (parentIf?_eq_some_iff.mp passes).1
    cases passesToo : tree.parentIf? test later with
    | none => rfl
    | some closer =>
      have foundToo := (parentIf?_eq_some_iff.mp passesToo).1
      have outer := (isAbove_iff_of_parent? foundToo).mp deeper
      exact absurd ⟨later, aroundToo, passesToo⟩
        (nearest closer (isAbove_of_isAround found outer))

/-- Methods, fields and static blocks: what may give `this` a value and does not end the search for
the class. -/
def isPassedBy (tree : Tree) (position : Nat) : Bool :=
  match tree.kind position with
  | .methodDefinition | .publicFieldDefinition | .fieldDefinition => true
  | .other "class_static_block" => true
  | _ => false

/-- Does a construct give `this` a value of its own in the part of it that a child opens? A method
does so everywhere but in its name, which may be computed, and a field only in its value. -/
def givesThis (tree : Tree) (construct child : Nat) : Bool :=
  match tree.kind construct with
  | .methodDefinition => !tree.holds construct .name child
  | .publicFieldDefinition | .fieldDefinition => tree.holds construct .value child
  | .other "class_static_block" => true
  | _ => tree.hasOwnThis construct

/-- The innermost construct around a node that gives `this` its value there. -/
def thisGiver? (tree : Tree) (position : Nat) : Option Nat :=
  tree.nearestAbove? tree.givesThis position

def StandsIn (tree : Tree) (owner position : Nat) : Prop :=
  ∃ body, tree.parent? position = some body ∧ tree.kind body = .classBody ∧
    tree.parent? body = some owner

def IsMemberOf (tree : Tree) (owner member : Nat) : Prop :=
  (tree.kind member = .methodDefinition ∨ tree.kind member = .publicFieldDefinition ∨
    tree.kind member = .fieldDefinition) ∧
  tree.StandsIn owner member

/-- If a class is found for a node, then `this` has its value there from a method or a field that
stands directly in the body of this class. -/
def FindsOwnClass (tree : Tree) (node : Nat) : Prop :=
  ∀ owner, tree.thisClass? node = some owner →
    ∃ member, tree.thisGiver? node = some member ∧ tree.IsMemberOf owner member

theorem hasOwnThis_or_isPassedBy {child : Nat} (gives : tree.givesThis node child) :
    tree.hasOwnThis node ∨ tree.isPassedBy node := by
  unfold givesThis at gives
  unfold isPassedBy
  split at gives <;> simp_all

theorem not_isClass_of_hasOwnThis (own : tree.hasOwnThis node) : tree.isClass node = false := by
  unfold isClass
  split <;> simp_all [hasOwnThis, isFunction]

theorem StandsIn.isAbove {owner : Nat} (stands : tree.StandsIn owner node) :
    tree.IsAbove owner node := by
  obtain ⟨body, upward, _, found⟩ := stands
  exact isAbove_of_parent? upward (Or.inr (.single found))

theorem IsMemberOf.kind_ne_classBody {owner member : Nat} (belongs : tree.IsMemberOf owner member) :
    tree.kind member ≠ .classBody := by
  intro isBody
  simpa [isBody] using belongs.1

theorem IsMemberOf.not_isClass {owner member : Nat} (belongs : tree.IsMemberOf owner member) :
    ¬ tree.isClass member := by
  rcases belongs.1 with kind | kind | kind <;> simp [isClass, kind]

/-- The search for the class stops at classes and at functions with a `this` of their own, whatever
child it comes through. -/
def endsSearch (tree : Tree) (construct _child : Nat) : Bool :=
  tree.isClass construct || tree.hasOwnThis construct

theorem meets_endsSearch_iff :
    tree.Meets tree.endsSearch above node ↔
      tree.IsAbove above node ∧ (tree.isClass above ∨ tree.hasOwnThis above) := by
  simp only [Meets, parentIf?_eq_some_iff, endsSearch, Bool.or_eq_true]
  constructor
  · rintro ⟨child, around, found, ends⟩
    exact ⟨isAbove_of_isAround found around, ends⟩
  · rintro ⟨higher, ends⟩
    obtain ⟨child, membership, around⟩ := higher.exists_child
    exact ⟨child, around, parent?_of_mem_children membership, ends⟩

theorem thisClass?_eq_filter :
    tree.thisClass? node = (tree.nearestAbove? tree.endsSearch node).filter tree.isClass := by
  induction node using Nat.strong_induction_on with
  | _ node inductionHypothesis =>
    rw [thisClass?, nearestAbove?, firstAround?_eq_or, parentIf?]
    split
    · next orphan => simp [orphan]
    · next parent found =>
      rw [found, inductionHypothesis parent (parent?_lt found), nearestAbove?]
      by_cases classLike : tree.isClass parent
      · simp [endsSearch, classLike, Option.filter]
      · by_cases own : tree.hasOwnThis parent <;> simp [endsSearch, classLike, own, Option.filter]

/-- The class found for a node is a class above it, and neither another class nor a function with a
`this` of its own stands between the two. -/
theorem thisClass?_eq_some_iff {owner : Nat} :
    tree.thisClass? node = some owner ↔
      tree.isClass owner ∧ tree.IsAbove owner node ∧
        ∀ between, tree.IsAbove owner between → tree.IsAbove between node →
          ¬ tree.isClass between ∧ ¬ tree.hasOwnThis between := by
  rw [thisClass?_eq_filter, Option.filter_eq_some_iff, nearestAbove?_eq_some_iff]
  simp only [meets_endsSearch_iff, not_and, not_or]
  constructor
  · rintro ⟨⟨⟨higher, _⟩, nearest⟩, isClass⟩
    exact ⟨isClass, higher, nearest⟩
  · rintro ⟨isClass, higher, nearest⟩
    exact ⟨⟨⟨higher, Or.inl isClass⟩, nearest⟩, isClass⟩

/-- A `this` that has its value from a function is never taken for an instance of a class around the
function: the class that is found, if any, stands inside it. -/
theorem isAbove_thisClass?_of_hasOwnThis {function owner : Nat}
    (given : tree.thisGiver? node = some function) (own : tree.hasOwnThis function)
    (found : tree.thisClass? node = some owner) : tree.IsAbove function owner := by
  have higher := (nearestAbove?_eq_some_iff.mp given).1.isAbove
  obtain ⟨classLike, outer, between⟩ := thisClass?_eq_some_iff.mp found
  rcases isAround_or_isAbove (Or.inr outer) (Or.inr higher) with (rfl | around) | inside
  · simp [not_isClass_of_hasOwnThis own] at classLike
  · exact absurd own (between function around higher).2
  · exact inside

/-- A member of the class that is found gives `this` its value exactly if no other method, value of
a field or static block does so further inside. No function comes between, since none stands between
the class and the node. -/
theorem thisGiver?_eq_some_iff_of_isMemberOf {owner member : Nat}
    (found : tree.thisClass? node = some owner) (belongs : tree.IsMemberOf owner member) :
    tree.thisGiver? node = some member ↔
      tree.Meets tree.givesThis member node ∧
        ∀ inner, tree.IsAbove member inner → tree.isPassedBy inner →
          ¬ tree.Meets tree.givesThis inner node := by
  rw [thisGiver?, nearestAbove?_eq_some_iff]
  refine and_congr_right fun _ => forall₂_congr fun inner lower => ?_
  refine ⟨fun passed _ => passed, fun passed met => ?_⟩
  have ⟨_, _, gives⟩ := met
  rcases hasOwnThis_or_isPassedBy (parentIf?_eq_some_iff.mp gives).2 with own | passedBy
  · have outer := belongs.2.isAbove.trans lower
    exact ((thisClass?_eq_some_iff.mp found).2.2 inner outer met.isAbove).2 own
  · exact passed passedBy met

/-- **The class of `this`.** The class that is found for a node is the one whose instance `this` is
there exactly if the node lies in a method or in the value of a field directly in the body of that
class, and in no other method, value of a field or static block inside of that member. -/
theorem findsOwnClass_iff :
    tree.FindsOwnClass node ↔
      ∀ owner, tree.thisClass? node = some owner →
        ∃ member, tree.IsMemberOf owner member ∧ tree.Meets tree.givesThis member node ∧
          ∀ inner, tree.IsAbove member inner → tree.isPassedBy inner →
            ¬ tree.Meets tree.givesThis inner node := by
  refine forall₂_congr fun owner found => exists_congr fun member => ?_
  rw [and_comm]
  exact and_congr_right (thisGiver?_eq_some_iff_of_isMemberOf found)

def objectMethodNodes : Array Node :=
  #[⟨.program, true, none, 0, 84, none⟩, ⟨.classDeclaration, true, none, 0, 84, some 0⟩,
    ⟨.classExpression, false, none, 0, 5, some 1⟩,
    ⟨.typeIdentifier, true, some .name, 6, 7, some 1⟩,
    ⟨.classBody, true, some .body, 8, 84, some 1⟩, ⟨.other "\x7b", false, none, 8, 9, some 4⟩,
    ⟨.methodDefinition, true, none, 10, 69, some 4⟩,
    ⟨.propertyIdentifier, true, some .name, 10, 11, some 6⟩,
    ⟨.other "formal_parameters", true, some .parameters, 11, 13, some 6⟩,
    ⟨.other "(", false, none, 11, 12, some 8⟩, ⟨.other ")", false, none, 12, 13, some 8⟩,
    ⟨.statementBlock, true, some .body, 14, 69, some 6⟩,
    ⟨.other "\x7b", false, none, 14, 15, some 11⟩,
    ⟨.lexicalDeclaration, true, none, 16, 54, some 11⟩,
    ⟨.other "const", false, none, 16, 21, some 13⟩,
    ⟨.variableDeclarator, true, none, 22, 53, some 13⟩,
    ⟨.identifier, true, some .name, 22, 23, some 15⟩, ⟨.other "=", false, none, 24, 25, some 15⟩,
    ⟨.objectLiteral, true, some .value, 26, 53, some 15⟩,
    ⟨.other "\x7b", false, none, 26, 27, some 18⟩, ⟨.methodDefinition, true, none, 28, 51, some 18⟩,
    ⟨.propertyIdentifier, true, some .name, 28, 29, some 20⟩,
    ⟨.other "formal_parameters", true, some .parameters, 29, 31, some 20⟩,
    ⟨.other "(", false, none, 29, 30, some 22⟩, ⟨.other ")", false, none, 30, 31, some 22⟩,
    ⟨.statementBlock, true, some .body, 32, 51, some 20⟩,
    ⟨.other "\x7b", false, none, 32, 33, some 25⟩, ⟨.returnStatement, true, none, 34, 49, some 25⟩,
    ⟨.other "return", false, none, 34, 40, some 27⟩, ⟨.callExpression, true, none, 41, 49, some 27⟩,
    ⟨.memberExpression, true, some .callee, 41, 47, some 29⟩,
    ⟨.thisReference, true, some .object, 41, 45, some 30⟩,
    ⟨.other ".", false, none, 45, 46, some 30⟩,
    ⟨.propertyIdentifier, true, some .property, 46, 47, some 30⟩,
    ⟨.other "arguments", true, none, 47, 49, some 29⟩, ⟨.other "(", false, none, 47, 48, some 34⟩,
    ⟨.other ")", false, none, 48, 49, some 34⟩, ⟨.other "\x7d", false, none, 50, 51, some 25⟩,
    ⟨.other "\x7d", false, none, 52, 53, some 18⟩, ⟨.other ";", false, none, 53, 54, some 13⟩,
    ⟨.returnStatement, true, none, 55, 67, some 11⟩,
    ⟨.other "return", false, none, 55, 61, some 40⟩, ⟨.callExpression, true, none, 62, 67, some 40⟩,
    ⟨.memberExpression, true, some .callee, 62, 65, some 42⟩,
    ⟨.identifier, true, some .object, 62, 63, some 43⟩, ⟨.other ".", false, none, 63, 64, some 43⟩,
    ⟨.propertyIdentifier, true, some .property, 64, 65, some 43⟩,
    ⟨.other "arguments", true, none, 65, 67, some 42⟩, ⟨.other "(", false, none, 65, 66, some 47⟩,
    ⟨.other ")", false, none, 66, 67, some 47⟩, ⟨.other "\x7d", false, none, 68, 69, some 11⟩,
    ⟨.methodDefinition, true, none, 70, 82, some 4⟩, ⟨.asyncWord, false, none, 70, 75, some 51⟩,
    ⟨.propertyIdentifier, true, some .name, 76, 77, some 51⟩,
    ⟨.other "formal_parameters", true, some .parameters, 77, 79, some 51⟩,
    ⟨.other "(", false, none, 77, 78, some 54⟩, ⟨.other ")", false, none, 78, 79, some 54⟩,
    ⟨.statementBlock, true, some .body, 80, 82, some 51⟩,
    ⟨.other "\x7b", false, none, 80, 81, some 57⟩, ⟨.other "\x7d", false, none, 81, 82, some 57⟩,
    ⟨.other "\x7d", false, none, 83, 84, some 4⟩]

def objectMethod : Tree where
  nodes := objectMethodNodes
  ends := endsOf objectMethodNodes
  nonempty := by decide +kernel
  ends_size := by decide +kernel
  nested := by decide +kernel

/-- In `class C { m() { const o = { n() { return this.k() } }; return o.n() } async k() {} }` the
object is `this` in its method, and the class is found. -/
theorem not_findsOwnClass_objectMethod :
    objectMethod.kind 31 = .thisReference ∧ objectMethod.thisClass? 31 = some 1 ∧
      objectMethod.thisGiver? 31 = some 20 ∧ objectMethod.parent? 20 = some 18 ∧
      objectMethod.kind 18 = .objectLiteral ∧ ¬ objectMethod.FindsOwnClass 31 := by
  have found : objectMethod.thisClass? 31 = some 1 := by decide +kernel
  have given : objectMethod.thisGiver? 31 = some 20 := by decide +kernel
  have inObject : objectMethod.parent? 20 = some 18 := by decide +kernel
  have object : objectMethod.kind 18 = .objectLiteral := by decide +kernel
  refine ⟨by decide +kernel, found, given, inObject, object, fun right => ?_⟩
  obtain ⟨member, given', _, body, upward, inClass, _⟩ := right 1 found
  rw [given] at given'
  cases given'
  rw [inObject] at upward
  cases upward
  simp [object] at inClass

/-- Where every method, field and static block stands in the body of a class, so that no object has
methods, the class found for a node is the right one as soon as the node lies in a member of it. -/
theorem findsOwnClass_of_standsIn
    (placed : ∀ inner, tree.isPassedBy inner → ∃ owner, tree.isClass owner ∧ tree.StandsIn owner inner)
    (within : ∀ owner, tree.thisClass? node = some owner →
      ∃ member, tree.IsMemberOf owner member ∧ tree.Meets tree.givesThis member node) :
    tree.FindsOwnClass node := by
  intro owner found
  obtain ⟨member, belongs, met⟩ := within owner found
  refine ⟨member, (thisGiver?_eq_some_iff_of_isMemberOf found belongs).mpr ⟨met, ?_⟩, belongs⟩
  intro inner lower passedBy met'
  obtain ⟨other, classLike, body, upward, isBody, ofOther⟩ := placed inner passedBy
  -- The class of the inner member stands below the outer one, so it would have been found first.
  have between : tree.IsAbove member other := by
    rcases (isAbove_iff_of_parent? upward).mp lower with rfl | aboveBody
    · exact absurd isBody belongs.kind_ne_classBody
    rcases (isAbove_iff_of_parent? ofOther).mp aboveBody with rfl | aboveOther
    · exact absurd classLike belongs.not_isClass
    · exact aboveOther
  have stands : tree.StandsIn other inner := ⟨body, upward, isBody, ofOther⟩
  have higher : tree.IsAbove other node := stands.isAbove.trans met'.isAbove
  exact ((thisClass?_eq_some_iff.mp found).2.2 other (belongs.2.isAbove.trans between) higher).1
    classLike

end PromiseDetection.Tree

import PromiseDetection.Proofs.Modules.Reexport
import PromiseDetection.Typing.Inference

/-!
Members of object literals.

The elements of a literal are read one after the other, and each of them provides members: a pair, a
shorthand and a method one under its key, and a spread all members of the object that is spread. A
member is looked up from the first of them on, so the first element that provides it decides its
type and not the last one, which overrides the others when the literal is evaluated.
-/

namespace PromiseDetection

structure ModuleGraph.ObjectLiteral (graph : ModuleGraph) where
  place : Site
  isLiteral : (graph.tree place.module).kind place.node = .objectLiteral

namespace ModuleGraph.ObjectLiteral

def elements {graph : ModuleGraph} (literal : graph.ObjectLiteral) : List Site :=
  ((graph.tree literal.place.module).namedChildren literal.place.node).map literal.place.withNode

end ModuleGraph.ObjectLiteral

/-- An element of an object literal is written under a name, or it is a spread. -/
def ModuleGraph.mayProvide (graph : ModuleGraph) (name : String) (element : Site) : Bool :=
  match (graph.tree element.module).kind element.node with
  | .pair => (graph.document element.module).keyIn? element.node .key = some name
  | .shorthandProperty => graph.textOf element = name
  | .methodDefinition => (graph.document element.module).keyIn? element.node .name = some name
  | .spreadElement => true
  | _ => false

namespace Inference

/-- The judgements about the parts of an expression, which have one level less. -/
def ofParts (inference : Inference) : Judgements :=
  .withLevels inference.manner inference.graph (inference.levels - 1)

def provided (inference : Inference) (element : Site) : Inquiry (List (String × Ty)) :=
  inference.ofParts.elementMembers inference.graph (inference.levels - 1) element

/-- An element of an object literal provides a type under a name, in a session that it changes. -/
inductive Provides (inference : Inference) (name : String) (element : Site) (before : Session) :
    Ty → Session → Prop where
  | pair {value : Nat} {type : Ty} {after : Session}
      (kind : (inference.graph.tree element.module).kind element.node = .pair)
      (keyed : (inference.graph.document element.module).keyIn? element.node .key = some name)
      (found : (inference.graph.tree element.module).childWith? element.node .value = some value)
      (typed : (inference.ofParts.expression (element.withNode value)).orUnknown.run before =
        some (type, after)) : Provides inference name element before type after
  | shorthand {type : Ty} {after : Session}
      (kind : (inference.graph.tree element.module).kind element.node = .shorthandProperty)
      (named : inference.graph.textOf element = name)
      (typed : (inference.ofParts.nameType inference.graph name element).orUnknown.run before =
        some (type, after)) : Provides inference name element before type after
  | method
      (kind : (inference.graph.tree element.module).kind element.node = .methodDefinition)
      (keyed : (inference.graph.document element.module).keyIn? element.node .name = some name)
      (plain : (inference.graph.tree element.module).childOfKind? element.node .getWord = none) :
      Provides inference name element before (.inferred element) before
  | getter {type : Ty} {after : Session}
      (kind : (inference.graph.tree element.module).kind element.node = .methodDefinition)
      (keyed : (inference.graph.document element.module).keyIn? element.node .name = some name)
      (marked : ((inference.graph.tree element.module).childOfKind? element.node .getWord).isSome)
      (typed : (inference.ofParts.functionReturn element).orUnknown.run before =
        some (type, after)) : Provides inference name element before type after
  | spread {inner : Nat} {spreadType type : Ty} {members : List (String × Ty)} {after : Session}
      (kind : (inference.graph.tree element.module).kind element.node = .spreadElement)
      (found : (inference.graph.tree element.module).firstOperand? element.node = some inner)
      (typed : (inference.ofParts.expression (element.withNode inner)).run before =
        some (.ok spreadType, after))
      (shape : inference.graph.lookThrough (inference.levels - 1) spreadType = .ok (.object members))
      (member : members.lookup name = some type) : Provides inference name element before type after

variable {inference : Inference} {name : String} {element : Site} {before after : Session}
  {members : List (String × Ty)} {type : Ty}

/-- An element provides what is found among its members. The cases are those of the kinds of
elements, and most of them read one expression. -/
theorem provides_of_lookup (came : (inference.provided element).run before = some (members, after))
    (found : members.lookup name = some type) :
    inference.Provides name element before type after := by
  have same : (inference.graph.document element.module).tree =
    inference.graph.tree element.module := rfl
  simp only [provided, Judgements.elementMembers, same] at came
  split at came
  · next kind =>
    split at came
    · next key value keyed valued =>
      obtain ⟨⟨given, next⟩, typed, finished⟩ := Option.bind_eq_some_iff.mp came
      cases finished
      obtain ⟨rfl, rfl⟩ := by simpa [Association.lookup_cons] using found
      exact .pair kind keyed valued typed
    · cases came
      simp at found
  · next kind =>
    obtain ⟨⟨given, next⟩, typed, finished⟩ := Option.bind_eq_some_iff.mp came
    cases finished
    obtain ⟨rfl, rfl⟩ := by simpa [Association.lookup_cons] using found
    exact .shorthand kind rfl typed
  · next kind =>
    split at came
    · cases came
      simp at found
    · next key keyed =>
      split at came
      · next marked =>
        obtain ⟨⟨given, next⟩, typed, finished⟩ := Option.bind_eq_some_iff.mp came
        cases finished
        obtain ⟨rfl, rfl⟩ := by simpa [Association.lookup_cons] using found
        exact .getter kind keyed marked typed
      · next plain =>
        cases came
        obtain ⟨rfl, rfl⟩ := by simpa [Association.lookup_cons] using found
        exact .method kind keyed (by simpa using plain)
  · next kind =>
    split at came
    · cases came
      simp at found
    · next inner operand =>
      obtain ⟨⟨result, next⟩, typed, finished⟩ := Option.bind_eq_some_iff.mp came
      cases result with
      | error error =>
        cases finished
        simp at found
      | ok spreadType =>
        cases shape : inference.graph.lookThrough (inference.levels - 1) spreadType with
        | error error =>
          simp only [shape] at finished
          cases finished
          simp at found
        | ok expanded =>
          cases expanded with
          | object expandedMembers =>
            simp only [shape] at finished
            cases finished
            exact .spread kind operand typed shape found
          | _ =>
            simp only [shape] at finished
            cases finished
            simp at found
  · cases came
    simp at found

theorem lookup_of_provides (came : (inference.provided element).run before = some (members, after))
    {next : Session} (provides : inference.Provides name element before type next) :
    members.lookup name = some type := by
  have same : (inference.graph.document element.module).tree =
    inference.graph.tree element.module := rfl
  simp only [provided, Judgements.elementMembers, same] at came
  cases provides with
  | pair kind keyed valued typed =>
    simp only [kind, keyed, valued] at came
    obtain ⟨_, given, finished⟩ := Option.bind_eq_some_iff.mp came
    cases typed.symm.trans given
    cases finished
    simp
  | shorthand kind named typed =>
    subst named
    simp only [kind] at came
    obtain ⟨_, given, finished⟩ := Option.bind_eq_some_iff.mp came
    cases typed.symm.trans given
    cases finished
    simp [ModuleGraph.textOf]
  | method kind keyed plain =>
    simp only [kind, keyed, plain] at came
    cases came
    simp
  | getter kind keyed marked typed =>
    simp only [kind, keyed, marked] at came
    obtain ⟨_, given, finished⟩ := Option.bind_eq_some_iff.mp came
    cases typed.symm.trans given
    cases finished
    simp
  | spread kind operand typed shape member =>
    simp only [kind, operand] at came
    obtain ⟨_, given, finished⟩ := Option.bind_eq_some_iff.mp came
    cases typed.symm.trans given
    simp only [shape] at finished
    cases finished
    exact member

theorem Provides.mayProvide (provides : inference.Provides name element before type after) :
    inference.graph.mayProvide name element = true := by
  cases provides with
  | pair kind keyed => simp [ModuleGraph.mayProvide, kind, keyed]
  | shorthand kind named => simp [ModuleGraph.mayProvide, kind, named]
  | method kind keyed => simp [ModuleGraph.mayProvide, kind, keyed]
  | getter kind keyed => simp [ModuleGraph.mayProvide, kind, keyed]
  | spread kind => simp [ModuleGraph.mayProvide, kind]

structure Reading (inference : Inference) where
  element : Site
  before : Session
  members : List (String × Ty)
  after : Session
  read : (inference.provided element).run before = some (members, after)

namespace Reading

def Provides (reading : inference.Reading) (name : String) (type : Ty) : Prop :=
  inference.Provides name reading.element reading.before type reading.after

theorem lookup_iff (reading : inference.Reading) :
    reading.members.lookup name = some type ↔ reading.Provides name type :=
  ⟨provides_of_lookup reading.read, lookup_of_provides reading.read⟩

theorem eq_of_same {reading other : inference.Reading} (sameElement : reading.element = other.element)
    (sameBefore : reading.before = other.before) : reading = other := by
  obtain ⟨element, before, members, after, read⟩ := reading
  obtain ⟨_, _, _, _, readToo⟩ := other
  cases sameElement
  cases sameBefore
  cases read.symm.trans readToo
  rfl

end Reading

inductive Reads (inference : Inference) :
    Session → List Site → List inference.Reading → Session → Prop where
  | nil {session : Session} : Reads inference session [] [] session
  | cons {rest : List Site} {readings : List inference.Reading} {last : Session}
      (reading : inference.Reading) (onward : Reads inference reading.after rest readings last) :
      Reads inference reading.before (reading.element :: rest) (reading :: readings) last

def FirstProvides (readings : List inference.Reading) (name : String) (type : Ty) : Prop :=
  FirstSays (fun reading type => reading.Provides name type) readings type

def LastProvides (readings : List inference.Reading) (name : String) (type : Ty) : Prop :=
  FirstSays (fun reading type => reading.Provides name type) readings.reverse type

variable {readings : List inference.Reading} {elements : List Site}

theorem firstProvides_iff :
    FirstProvides readings name type ↔
      (readings.findSome? fun reading => reading.members.lookup name) = some type :=
  (findSome?_eq_some_iff_firstSays fun reading _ => reading.lookup_iff).symm

theorem lastProvides_iff :
    LastProvides readings name type ↔
      (readings.reverse.findSome? fun reading => reading.members.lookup name) = some type :=
  (findSome?_eq_some_iff_firstSays fun reading _ => reading.lookup_iff).symm

theorem Reads.unique (reads : inference.Reads before elements readings after)
    {others : List inference.Reading} {last : Session}
    (readsToo : inference.Reads before elements others last) : others = readings := by
  induction elements generalizing before readings others with
  | nil =>
    cases reads
    cases readsToo
    rfl
  | cons element rest inductionHypothesis =>
    obtain _ | ⟨reading, onward⟩ := reads
    generalize sameElement : reading.element = element at readsToo
    generalize sameBefore : reading.before = before at readsToo
    obtain _ | ⟨other, onwardToo⟩ := readsToo
    cases Reading.eq_of_same sameElement sameBefore
    rw [inductionHypothesis onward onwardToo]

theorem run_mapM_provided_iff {parts : List (List (String × Ty))} :
    (elements.mapM inference.provided).run before = some (parts, after) ↔
      ∃ readings : List inference.Reading, inference.Reads before elements readings after ∧
        parts = readings.map (·.members) := by
  induction elements generalizing before parts with
  | nil =>
    constructor
    · rintro ⟨⟩
      exact ⟨[], .nil, rfl⟩
    · rintro ⟨_, ⟨⟩, rfl⟩
      rfl
  | cons element rest inductionHypothesis =>
    rw [List.mapM_cons]
    constructor
    · intro came
      obtain ⟨⟨members, next⟩, begun, continued⟩ := Option.bind_eq_some_iff.mp came
      obtain ⟨⟨others, last⟩, later, finished⟩ := Option.bind_eq_some_iff.mp continued
      cases finished
      obtain ⟨readings, reads, rfl⟩ := inductionHypothesis.mp later
      let reading : inference.Reading :=
        { element, before, members, after := next, read := begun }
      exact ⟨reading :: readings, .cons reading reads, rfl⟩
    · rintro ⟨_, _ | ⟨reading, onward⟩, rfl⟩
      exact Option.bind_eq_some_iff.mpr ⟨_, reading.read,
        Option.bind_eq_some_iff.mpr ⟨_, inductionHypothesis.mpr ⟨_, onward, rfl⟩, rfl⟩⟩

theorem run_object (inquiry : Inquiry (List (List (String × Ty)))) :
    (do return Ty.object (← (do return (← inquiry).flatten : Inquiry (List (String × Ty)))) :
        Infer Ty).run before =
      (inquiry.run before).map fun reached => (.ok (.object reached.1.flatten), reached.2) := by
  show Option.bind (Option.bind (Option.bind (inquiry.run before) _) _) _ = _
  cases inquiry.run before <;> rfl

theorem run_typeOf_literal {literal : inference.graph.ObjectLiteral} {levels : Nat}
    (left : inference.levels = levels + 1) :
    (inference.typeOf literal.place).run before =
      ((literal.elements.mapM inference.provided).run before).map
        fun reached => (.ok (.object reached.1.flatten), reached.2) := by
  have isLiteral : (inference.graph.document literal.place.module).tree.kind literal.place.node =
    .objectLiteral := literal.isLiteral
  have provided : inference.provided =
      (Judgements.withLevels inference.manner inference.graph levels).elementMembers
        inference.graph levels := by
    funext element
    simp [Inference.provided, ofParts, left]
  rw [ModuleGraph.ObjectLiteral.elements, List.mapM_map, provided]
  simp only [typeOf, judgements, left, Judgements.withLevels, Judgements.step,
    Judgements.expressionStep, isLiteral, Judgements.membersOfLiteral]
  exact run_object _

/-- The type of an object literal has what its elements provide, if there is a level left. -/
theorem run_typeOf_literal_iff {literal : inference.graph.ObjectLiteral} {object : Ty} :
    (inference.typeOf literal.place).run before = some (.ok object, after) ↔
      inference.levels ≠ 0 ∧ ∃ readings : List inference.Reading,
        inference.Reads before literal.elements readings after ∧
          object = .object (readings.flatMap (·.members)) := by
  cases levels : inference.levels with
  | zero =>
    have given : (inference.typeOf literal.place).run before = some (.error .tooDeep, before) := by
      simp only [typeOf, judgements, levels]
      rfl
    simp [given]
  | succ below =>
    rw [run_typeOf_literal levels, Option.map_eq_some_iff]
    constructor
    · rintro ⟨⟨parts, last⟩, came, finished⟩
      cases finished
      obtain ⟨readings, reads, rfl⟩ := run_mapM_provided_iff.mp came
      exact ⟨Nat.succ_ne_zero below, readings, reads, by rw [List.flatMap_def]⟩
    · rintro ⟨_, readings, reads, rfl⟩
      exact ⟨(_, after), run_mapM_provided_iff.mpr ⟨readings, reads, rfl⟩,
        by rw [List.flatMap_def]⟩

theorem lookup_flatMap_members :
    (readings.flatMap (·.members)).lookup name =
      readings.findSome? fun reading => reading.members.lookup name := by
  induction readings with
  | nil => rfl
  | cons reading rest inductionHypothesis =>
    rw [List.flatMap_cons, List.lookup_append, inductionHypothesis, List.findSome?_cons]
    cases reading.members.lookup name <;> rfl

theorem run_typeOfMember_object (left : inference.levels ≠ 0) (session : Session)
    (found : members.lookup name = some type) :
    (inference.typeOfMember (.object members) name).run session = some (.ok type, session) := by
  obtain ⟨levels, left⟩ := Nat.exists_eq_succ_of_ne_zero left
  simp only [typeOfMember, judgements, left, Judgements.withLevels, Judgements.step,
    Judgements.memberStep, found]
  rfl

/-- Whenever the type of a literal is found, this holds of what is read of it and of the type. -/
def WhenTyped (inference : Inference) (literal : inference.graph.ObjectLiteral)
    (holds : List inference.Reading → Ty → Prop) : Prop :=
  ∀ session object after, (inference.typeOf literal.place).run session = some (.ok object, after) →
    ∃ readings : List inference.Reading, inference.Reads session literal.elements readings after ∧
      holds readings object

/-- The first element of a literal that provides a member decides its type. -/
def FirstWins (inference : Inference) (literal : inference.graph.ObjectLiteral) (name : String) :
    Prop :=
  inference.WhenTyped literal fun readings object => ∀ type, FirstProvides readings name type →
    ∀ later, (inference.typeOfMember object name).run later = some (.ok type, later)

/-- The last element of a literal that provides a member decides its type, as it does when the
literal is evaluated. -/
def LastWins (inference : Inference) (literal : inference.graph.ObjectLiteral) (name : String) :
    Prop :=
  inference.WhenTyped literal fun readings object => ∀ type, LastProvides readings name type →
    ∀ later, (inference.typeOfMember object name).run later = some (.ok type, later)

section

variable {literal : inference.graph.ObjectLiteral}
  {holds others result : List inference.Reading → Ty → Prop}

theorem WhenTyped.combine (first : inference.WhenTyped literal holds)
    (second : inference.WhenTyped literal others)
    (both : ∀ readings object, holds readings object → others readings object →
      result readings object) : inference.WhenTyped literal result := by
  intro session object after typed
  obtain ⟨readings, reads, held⟩ := first session object after typed
  obtain ⟨_, readsToo, heldToo⟩ := second session object after typed
  cases reads.unique readsToo
  exact ⟨readings, reads, both readings object held heldToo⟩

end

theorem exists_firstProvides (last : LastProvides readings name type) :
    ∃ first, FirstProvides readings name first := by
  obtain ⟨reading, inside, provided⟩ := List.exists_of_findSome?_eq_some (lastProvides_iff.mp last)
  have hit : (readings.findSome? fun reading => reading.members.lookup name).isSome :=
    List.findSome?_isSome_iff.mpr
      ⟨reading, List.mem_reverse.mp inside, Option.isSome_of_eq_some provided⟩
  obtain ⟨first, found⟩ := Option.isSome_iff_exists.mp hit
  exact ⟨first, firstProvides_iff.mpr found⟩

theorem run_typeOfMember_of_firstProvides (left : inference.levels ≠ 0)
    (first : FirstProvides readings name type) (session : Session) :
    (inference.typeOfMember (.object (readings.flatMap (·.members))) name).run session =
      some (.ok type, session) :=
  run_typeOfMember_object left session (lookup_flatMap_members.trans (firstProvides_iff.mp first))

/-- Whatever the elements are, the first one that provides a member wins. -/
theorem firstWins (inference : Inference) (literal : inference.graph.ObjectLiteral) (name : String) :
    inference.FirstWins literal name := by
  intro session object after typed
  obtain ⟨left, readings, reads, rfl⟩ := run_typeOf_literal_iff.mp typed
  exact ⟨readings, reads, fun type => run_typeOfMember_of_firstProvides left⟩

theorem lastWins_of_agree {literal : inference.graph.ObjectLiteral}
    (agree : inference.WhenTyped literal fun readings _ =>
      ∀ type, LastProvides readings name type → FirstProvides readings name type) :
    inference.LastWins literal name :=
  (inference.firstWins literal name).combine agree
    fun _ _ first same type provides => first type (same type provides)

/-- **Object literals.** The first element of a literal that provides a member decides its type. So
the last one does exactly if it provides, whenever the type of the literal is found, what the first
one provides. -/
theorem lastWins_iff (inference : Inference) (literal : inference.graph.ObjectLiteral)
    (name : String) :
    inference.FirstWins literal name ∧
      (inference.LastWins literal name ↔
        inference.WhenTyped literal fun readings _ =>
          ∀ type, LastProvides readings name type → FirstProvides readings name type) := by
  have firstWins := inference.firstWins literal name
  refine ⟨firstWins, fun lastWins => ?_, lastWins_of_agree⟩
  refine firstWins.combine lastWins fun readings object first last type provides => ?_
  obtain ⟨other, providesToo⟩ := exists_firstProvides provides
  have given := last type provides .fresh
  rw [first other providesToo .fresh] at given
  cases given
  exact providesToo

theorem Reads.map_element (reads : inference.Reads before elements readings after) :
    readings.map (·.element) = elements := by
  induction reads with
  | nil => rfl
  | cons reading _ inductionHypothesis => rw [List.map_cons, inductionHypothesis]

/-- Where at most one element may provide a member, the last one that does is the first one. -/
theorem lastWins_of_countP_le_one {literal : inference.graph.ObjectLiteral}
    (once : literal.elements.countP (inference.graph.mayProvide name) ≤ 1) :
    inference.LastWins literal name := by
  refine lastWins_of_agree fun session object after typed => ?_
  obtain ⟨_, readings, reads, _⟩ := run_typeOf_literal_iff.mp typed
  refine ⟨readings, reads, fun type last => ?_⟩
  let types := readings.filterMap fun reading => reading.members.lookup name
  have few : types.length ≤ 1 :=
    calc types.length
      _ = readings.countP fun reading => (reading.members.lookup name).isSome :=
        List.length_filterMap_eq_countP
      _ ≤ readings.countP fun reading => inference.graph.mayProvide name reading.element := by
        refine List.countP_mono_left fun reading _ found => ?_
        obtain ⟨type, found⟩ := Option.isSome_iff_exists.mp found
        exact (reading.lookup_iff.mp found).mayProvide
      _ = literal.elements.countP (inference.graph.mayProvide name) := by
        rw [← reads.map_element, List.countP_map]
        rfl
      _ ≤ 1 := once
  have same : types.reverse = types := by
    match types, few with
    | [], _ => rfl
    | [_], _ => rfl
  have last : types.reverse.head? = some type := by
    rw [lastProvides_iff, ← List.head?_filterMap, List.filterMap_reverse] at last
    exact last
  rw [same] at last
  rw [firstProvides_iff, ← List.head?_filterMap]
  exact last

end Inference

def overriddenMemberNodes : Array Node :=
  #[⟨.program, true, none, 0, 75, none⟩, ⟨.lexicalDeclaration, true, none, 0, 25, some 0⟩,
    ⟨.other "const", false, none, 0, 5, some 1⟩, ⟨.variableDeclarator, true, none, 6, 24, some 1⟩,
    ⟨.identifier, true, some .name, 6, 10, some 3⟩, ⟨.other "=", false, none, 11, 12, some 3⟩,
    ⟨.objectLiteral, true, some .value, 13, 24, some 3⟩,
    ⟨.other "\x7b", false, none, 13, 14, some 6⟩, ⟨.pair, true, none, 15, 22, some 6⟩,
    ⟨.propertyIdentifier, true, some .key, 15, 19, some 8⟩,
    ⟨.other ":", false, none, 19, 20, some 8⟩, ⟨.numberLiteral, true, some .value, 21, 22, some 8⟩,
    ⟨.other "\x7d", false, none, 23, 24, some 6⟩, ⟨.other ";", false, none, 24, 25, some 1⟩,
    ⟨.lexicalDeclaration, true, none, 26, 63, some 0⟩,
    ⟨.other "const", false, none, 26, 31, some 14⟩,
    ⟨.variableDeclarator, true, none, 32, 62, some 14⟩,
    ⟨.identifier, true, some .name, 32, 35, some 16⟩, ⟨.other "=", false, none, 36, 37, some 16⟩,
    ⟨.objectLiteral, true, some .value, 38, 62, some 16⟩,
    ⟨.other "\x7b", false, none, 38, 39, some 19⟩, ⟨.spreadElement, true, none, 40, 47, some 19⟩,
    ⟨.other "...", false, none, 40, 43, some 21⟩, ⟨.identifier, true, none, 43, 47, some 21⟩,
    ⟨.other ",", false, none, 47, 48, some 19⟩, ⟨.pair, true, none, 49, 60, some 19⟩,
    ⟨.propertyIdentifier, true, some .key, 49, 53, some 25⟩,
    ⟨.other ":", false, none, 53, 54, some 25⟩, ⟨.identifier, true, some .value, 55, 60, some 25⟩,
    ⟨.other "\x7d", false, none, 61, 62, some 19⟩, ⟨.other ";", false, none, 62, 63, some 14⟩,
    ⟨.expressionStatement, true, none, 64, 75, some 0⟩,
    ⟨.callExpression, true, none, 64, 74, some 31⟩,
    ⟨.memberExpression, true, some .callee, 64, 72, some 32⟩,
    ⟨.identifier, true, some .object, 64, 67, some 33⟩, ⟨.other ".", false, none, 67, 68, some 33⟩,
    ⟨.propertyIdentifier, true, some .property, 68, 72, some 33⟩,
    ⟨.other "arguments", true, none, 72, 74, some 32⟩, ⟨.other "(", false, none, 72, 73, some 37⟩,
    ⟨.other ")", false, none, 73, 74, some 37⟩, ⟨.other ";", false, none, 74, 75, some 31⟩]

def overriddenMember : ModuleGraph where
  root :=
    { document :=
        { text := "const base = \x7b load: 1 \x7d;\n" ++
            "const api = \x7b ...base, load: fetch \x7d;\napi.load();"
          tree :=
            { nodes := overriddenMemberNodes
              ends := Tree.endsOf overriddenMemberNodes
              nonempty := by decide +kernel
              ends_size := by decide +kernel
              nested := by decide +kernel } }
      path? := some ⟨"main.ts"⟩
      dialect := .typeScript }
  imports := #[]
  links := []

namespace Inference

def overridingLiteral : (onGraph overriddenMember).graph.ObjectLiteral where
  place := { node := 19, module := 0 }
  isLiteral := by decide +kernel

def spreadReading : (onGraph overriddenMember).Reading where
  element := { node := 21, module := 0 }
  before := .fresh
  members := [("load", .primitive .number)]
  after := .fresh
  read := by decide +kernel

def pairReading : (onGraph overriddenMember).Reading where
  element := { node := 25, module := 0 }
  before := .fresh
  members := [("load", .builtin .fetch)]
  after := .fresh
  read := by decide +kernel

/-- In `const api = { ...base, load: fetch }` the member is the number of `base`, which is
overridden, and so the call of it is not taken for a promise. -/
theorem not_lastWins_overriddenMember :
    ((onGraph overriddenMember).typeOf overridingLiteral.place).run .fresh =
        some (.ok (.object [("load", .primitive .number), ("load", .builtin .fetch)]), .fresh) ∧
      ((onGraph overriddenMember).typeOfMember
          (.object [("load", .primitive .number), ("load", .builtin .fetch)]) "load").run .fresh =
        some (.ok (.primitive .number), .fresh) ∧
      ¬ (onGraph overriddenMember).LastWins overridingLiteral "load" := by
  have elements : overridingLiteral.elements = [spreadReading.element, pairReading.element] := by
    decide +kernel
  have both : (onGraph overriddenMember).Reads .fresh overridingLiteral.elements
      [spreadReading, pairReading] .fresh := by
    rw [elements]
    exact .cons spreadReading (.cons pairReading .nil)
  have typed : ((onGraph overriddenMember).typeOf overridingLiteral.place).run .fresh =
      some (.ok (.object [("load", .primitive .number), ("load", .builtin .fetch)]), .fresh) :=
    run_typeOf_literal_iff.mpr ⟨by decide, _, both, rfl⟩
  have member : ((onGraph overriddenMember).typeOfMember
        (.object [("load", .primitive .number), ("load", .builtin .fetch)]) "load").run .fresh =
      some (.ok (.primitive .number), .fresh) := run_typeOfMember_object (by decide) .fresh rfl
  refine ⟨typed, member, fun wins => ?_⟩
  obtain ⟨readings, reads, last⟩ := wins .fresh _ _ typed
  cases reads.unique both
  have given := last (.builtin .fetch) (lastProvides_iff.mpr rfl) .fresh
  rw [member] at given
  cases given

end Inference

end PromiseDetection

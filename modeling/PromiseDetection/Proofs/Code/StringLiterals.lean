import PromiseDetection.Proofs.Modules.Loading
import PromiseDetection.Proofs.Registry.Completeness
import PromiseDetection.Proofs.Text.Slice
import PromiseDetection.Proofs.Text.Strip

/-!
What is written between the quotation marks of a literal, and what is read of it.

The grammar cuts the content of a string literal at its escape sequences, and the parts follow each
other without a gap, so the content is what the parts say one after another. What is read is the
first fragment alone, or, if there is no fragment, the content without the quotation marks at its
ends. That is a piece of the content, and it is all of it only if nothing was cut. Keys and the
specifiers of imports are read in this way, so they say what is written exactly if their literals
are read to the end.
-/

namespace PromiseDetection

namespace Text

variable {text : String} {start middle stop : Nat}

theorem isBoundary_of_slice_ne_empty (written : slice text start stop ≠ "") :
    start < stop ∧ IsBoundary text start ∧ IsBoundary text stop := by
  constructor
  · by_contra reversed
    exact written (slice_of_le (Nat.le_of_not_lt reversed))
  · by_contra inside
    exact written (slice_of_not_isBoundary inside)

theorem slice_append_slice (first : IsBoundary text start) (second : IsBoundary text middle)
    (third : IsBoundary text stop) (early : start ≤ middle) (late : middle ≤ stop) :
    slice text start middle ++ slice text middle stop = slice text start stop := by
  rw [← String.toByteArray_inj, String.toByteArray_append, toByteArray_slice first second,
    toByteArray_slice second third, toByteArray_slice first third,
    ByteArray.extract_append_extract, Nat.min_eq_left early, Nat.max_eq_right late]

end Text

/-- Nodes that follow each other without a gap from one offset to another. -/
def Tree.Fills (tree : Tree) : List Nat → Nat → Nat → Prop
  | [], start, stop => start = stop
  | node :: rest, start, stop => tree.start node = start ∧ tree.Fills rest (tree.stop node) stop

instance Tree.decidableFills (tree : Tree) :
    ∀ nodes start stop, Decidable (tree.Fills nodes start stop)
  | [], start, stop => inferInstanceAs (Decidable (start = stop))
  | node :: rest, start, stop =>
    have := tree.decidableFills rest (tree.stop node) stop
    inferInstanceAs (Decidable (tree.start node = start ∧ tree.Fills rest (tree.stop node) stop))

theorem Tree.fills_append {tree : Tree} {before behind : List Nat} {start stop : Nat} :
    tree.Fills (before ++ behind) start stop ↔
      ∃ middle, tree.Fills before start middle ∧ tree.Fills behind middle stop := by
  induction before generalizing start with
  | nil => simp [Fills]
  | cons node rest inductionHypothesis => simp [Fills, inductionHypothesis, and_assoc]

/-- A string literal as the grammar makes it: any fragments and escape sequences between a quotation
mark and the same mark again. All of them have text, and there are no gaps. -/
structure StringLiteral (document : Document) where
  node : Nat
  mark : Char
  opening : Nat
  parts : List Nat
  closing : Nat
  kind : document.tree.kind node = .stringLiteral
  quotes : mark = '\x22' ∨ mark = '\x27'
  children : document.tree.children node = opening :: (parts ++ [closing])
  tokens : ∀ token ∈ [opening, closing],
    document.tree.kind token = .other (String.singleton mark) ∧
      document.textOf token = String.singleton mark
  cut : ∀ part ∈ parts, (document.tree.kind part = .stringFragment ∨
    document.tree.kind part = .other "escape_sequence") ∧ document.textOf part ≠ ""
  fills : document.tree.Fills (opening :: (parts ++ [closing])) (document.tree.start node)
    (document.tree.stop node)

namespace StringLiteral

variable {document : Document} (literal : StringLiteral document)

def content : String :=
  Text.slice document.text (document.tree.stop literal.opening)
    (document.tree.start literal.closing)

/-- What is read of a literal is all of it: it is a single fragment, or it has no fragment and no
quotation mark at an end. -/
def IsPlain : Prop :=
  (∃ fragment, document.tree.kind fragment = .stringFragment ∧ literal.parts = [fragment]) ∨
    (∀ part ∈ literal.parts, document.tree.kind part ≠ .stringFragment) ∧
      (∀ first ∈ literal.content.toList.head?, Document.isQuote first = false) ∧
        ∀ last ∈ literal.content.toList.getLast?, Document.isQuote last = false

end StringLiteral

namespace Document

variable {document : Document}

theorem toList_slice_of_fills {nodes : List Nat} {start stop : Nat}
    (fills : document.tree.Fills nodes start stop)
    (written : ∀ node ∈ nodes, document.textOf node ≠ "")
    (boundary : Text.IsBoundary document.text start) :
    start ≤ stop ∧ Text.IsBoundary document.text stop ∧
      (Text.slice document.text start stop).toList =
        nodes.flatMap fun node => (document.textOf node).toList := by
  induction nodes generalizing start with
  | nil =>
    cases fills
    exact ⟨Nat.le_refl _, boundary, by rw [Text.slice_of_le (Nat.le_refl _)]; rfl⟩
  | cons node rest inductionHypothesis =>
    obtain ⟨rfl, fills⟩ := fills
    obtain ⟨here, behind⟩ := List.forall_mem_cons.mp written
    obtain ⟨before, -, middle⟩ := Text.isBoundary_of_slice_ne_empty here
    obtain ⟨ordered, last, joined⟩ := inductionHypothesis fills behind middle
    refine ⟨Nat.le_trans (Nat.le_of_lt before) ordered, last, ?_⟩
    rw [← Text.slice_append_slice boundary middle last (Nat.le_of_lt before) ordered,
      String.toList_append, joined, List.flatMap_cons, textOf]

end Document

namespace StringLiteral

variable {document : Document} (literal : StringLiteral document)

theorem isQuote_mark : Document.isQuote literal.mark = true := by
  rcases literal.quotes with mark | mark <;> rw [mark] <;> rfl

theorem textOf_opening : document.textOf literal.opening = String.singleton literal.mark :=
  (literal.tokens _ (by simp)).2

theorem textOf_closing : document.textOf literal.closing = String.singleton literal.mark :=
  (literal.tokens _ (by simp)).2

theorem textOf_ne_empty {token : Nat}
    (same : document.textOf token = String.singleton literal.mark) :
    document.textOf token ≠ "" := by
  rw [same]
  simp [← String.toList_inj]

theorem textOf_part_ne_empty {part : Nat} (membership : part ∈ literal.parts) :
    document.textOf part ≠ "" :=
  (literal.cut part membership).2

theorem toList_content :
    literal.content.toList =
      literal.parts.flatMap fun part => (document.textOf part).toList := by
  obtain ⟨-, fills⟩ := literal.fills
  obtain ⟨middle, fills, start, -⟩ := Tree.fills_append.mp fills
  rw [← start] at fills
  obtain ⟨-, -, boundary⟩ :=
    Text.isBoundary_of_slice_ne_empty (literal.textOf_ne_empty literal.textOf_opening)
  exact (Document.toList_slice_of_fills fills (fun _ => literal.textOf_part_ne_empty) boundary).2.2

theorem toList_textOf :
    (document.textOf literal.node).toList =
      literal.mark :: (literal.content.toList ++ [literal.mark]) := by
  have written : ∀ node ∈ literal.opening :: (literal.parts ++ [literal.closing]),
      document.textOf node ≠ "" := by
    rw [List.forall_mem_cons, List.forall_mem_append, List.forall_mem_singleton]
    exact ⟨literal.textOf_ne_empty literal.textOf_opening,
      fun _ => literal.textOf_part_ne_empty,
      literal.textOf_ne_empty literal.textOf_closing⟩
  obtain ⟨-, boundary, -⟩ :=
    Text.isBoundary_of_slice_ne_empty (literal.textOf_ne_empty literal.textOf_opening)
  rw [literal.fills.1] at boundary
  rw [Document.textOf, (Document.toList_slice_of_fills literal.fills written boundary).2.2]
  simp [literal.textOf_opening, literal.textOf_closing, literal.toList_content]

theorem textOf_eq_iff {other : Document} (second : StringLiteral other)
    (sameMark : literal.mark = second.mark) :
    document.textOf literal.node = other.textOf second.node ↔
      literal.content = second.content := by
  rw [← String.toList_inj, literal.toList_textOf, second.toList_textOf, sameMark]
  simp [String.toList_inj]

theorem childOfKind?_fragment :
    document.tree.childOfKind? literal.node .stringFragment =
      literal.parts.find? fun part => document.tree.kind part = .stringFragment := by
  have opening := (literal.tokens literal.opening (by simp)).1
  have closing := (literal.tokens literal.closing (by simp)).1
  simp [Tree.childOfKind?, literal.children, opening, closing]

theorem literalText_of_fragment {before behind : List Nat} {fragment : Nat}
    (parts : literal.parts = before ++ fragment :: behind)
    (escapes : ∀ part ∈ before, document.tree.kind part ≠ .stringFragment)
    (kind : document.tree.kind fragment = .stringFragment) :
    document.literalText literal.node = document.textOf fragment := by
  have found : document.tree.childOfKind? literal.node .stringFragment = some fragment := by
    have none : (before.find? fun part => document.tree.kind part = .stringFragment) = none :=
      List.find?_eq_none.mpr (by simpa using escapes)
    rw [childOfKind?_fragment, parts, List.find?_append, none]
    simp [kind]
  rw [Document.literalText, found]

theorem literalText_of_escapes
    (escapes : ∀ part ∈ literal.parts, document.tree.kind part ≠ .stringFragment) :
    document.literalText literal.node =
      String.ofList (Text.strip Document.isQuote literal.content.toList) := by
  have missing : document.tree.childOfKind? literal.node .stringFragment = none := by
    rw [childOfKind?_fragment, List.find?_eq_none]
    simpa using escapes
  rw [Document.literalText, missing]
  dsimp only
  rw [Document.unquoted, literal.toList_textOf, Text.strip_quoted literal.isQuote_mark]

theorem fragment_cases :
    (∀ part ∈ literal.parts, document.tree.kind part ≠ .stringFragment) ∨
      ∃ before fragment behind, literal.parts = before ++ fragment :: behind ∧
        (∀ part ∈ before, document.tree.kind part ≠ .stringFragment) ∧
        document.tree.kind fragment = .stringFragment := by
  cases found : literal.parts.find? fun part => document.tree.kind part = .stringFragment with
  | none => exact .inl (by simpa using found)
  | some fragment =>
    obtain ⟨kind, before, behind, parts, escapes⟩ := List.find?_eq_some_iff_append.mp found
    exact .inr ⟨before, fragment, behind, parts, by simpa using escapes, by simpa using kind⟩

theorem literalText_infix :
    (document.literalText literal.node).toList <:+: literal.content.toList := by
  rcases literal.fragment_cases with escapes | ⟨before, fragment, behind, parts, escapes, kind⟩
  · rw [literal.literalText_of_escapes escapes, String.toList_ofList]
    exact Text.strip_infix
  · rw [literal.literalText_of_fragment parts escapes kind, literal.toList_content, parts]
    simp only [List.flatMap_append, List.flatMap_cons]
    exact ⟨_, _, List.append_assoc _ _ _⟩

theorem textOf_eq_content_iff {before behind : List Nat} {part : Nat}
    (parts : literal.parts = before ++ part :: behind) :
    document.textOf part = literal.content ↔ before = [] ∧ behind = [] := by
  have silent (rest : List Nat) (within : ∀ other ∈ rest, other ∈ literal.parts) :
      (rest.flatMap fun other => (document.textOf other).toList) = [] ↔ rest = [] := by
    constructor
    · intro nothing
      refine List.eq_nil_iff_forall_not_mem.mpr fun other membership => ?_
      have empty := List.flatMap_eq_nil_iff.mp nothing other membership
      exact literal.textOf_part_ne_empty (within other membership) (by simpa using empty)
    · rintro rfl
      rfl
  rw [← silent before (by simp +contextual [parts]), ← silent behind (by simp +contextual [parts]),
    ← String.toList_inj, literal.toList_content, parts, List.flatMap_append, List.flatMap_cons]
  constructor
  · intro same
    have lengths := congrArg List.length same
    simp only [List.length_append] at lengths
    exact ⟨List.length_eq_zero_iff.mp (by omega), List.length_eq_zero_iff.mp (by omega)⟩
  · rintro ⟨front, back⟩
    rw [front, back, List.nil_append, List.append_nil]

/-- All of a literal is read exactly if nothing was cut and no quotation mark stripped off. -/
theorem literalText_eq_content_iff :
    document.literalText literal.node = literal.content ↔ literal.IsPlain := by
  rcases literal.fragment_cases with escapes | ⟨before, fragment, behind, parts, escapes, kind⟩
  · have noFragment : ¬ ∃ fragment, document.tree.kind fragment = .stringFragment ∧
        literal.parts = [fragment] := by
      rintro ⟨fragment, kind, parts⟩
      exact escapes fragment (by simp [parts]) kind
    rw [literal.literalText_of_escapes escapes, ← String.toList_inj, String.toList_ofList,
      Text.strip_eq_self_iff, IsPlain, or_iff_right noFragment, and_iff_right escapes]
  · rw [literal.literalText_of_fragment parts escapes kind, literal.textOf_eq_content_iff parts]
    constructor
    · rintro ⟨rfl, rfl⟩
      exact .inl ⟨fragment, kind, parts⟩
    · rintro (⟨single, -, alone⟩ | ⟨none, -⟩)
      · obtain ⟨front, -, back⟩ : before = [] ∧ fragment = single ∧ behind = [] := by
          simpa [parts, List.append_eq_singleton_iff] using alone
        exact ⟨front, back⟩
      · exact absurd kind (none fragment (by simp [parts]))

theorem writtenKey?_eq :
    document.writtenKey? literal.node = some (document.literalText literal.node) := by
  simp [Document.writtenKey?, literal.kind]

/-- Two keys that are read to the end and have the same quotation mark are equal exactly if they
are written the same. -/
theorem IsPlain.writtenKey?_eq_iff {literal : StringLiteral document} {other : Document}
    {second : StringLiteral other} (plain : literal.IsPlain) (plainToo : second.IsPlain)
    (sameMark : literal.mark = second.mark) :
    document.writtenKey? literal.node = other.writtenKey? second.node ↔
      document.textOf literal.node = other.textOf second.node := by
  rw [writtenKey?_eq, writtenKey?_eq, Option.some_inj, literal.literalText_eq_content_iff.mpr plain,
    second.literalText_eq_content_iff.mpr plainToo, literal.textOf_eq_iff second sameMark]

end StringLiteral

namespace SourceUnit

def IsSource (unit : SourceUnit) (source : Nat) : Prop :=
  ∃ statement ∈ unit.tree.namedChildren unit.tree.root,
    (unit.tree.kind statement = .importStatement ∨ unit.tree.kind statement = .exportStatement) ∧
      unit.tree.childWith? statement .source = some source

theorem mem_specifiers_iff_isSource {unit : SourceUnit} {specifier : String} :
    specifier ∈ unit.specifiers ↔
      isRelative specifier = true ∧
        ∃ source, unit.IsSource source ∧ unit.document.literalText source = specifier := by
  rw [mem_specifiers_iff, Imports]
  apply and_congr_right
  intro _
  constructor
  · rintro ⟨statement, top, kind, source, found, read⟩
    exact ⟨source, ⟨statement, top, kind, found⟩, read⟩
  · rintro ⟨source, ⟨statement, top, kind, found⟩, read⟩
    exact ⟨statement, top, kind, source, found, read⟩

/-- The literals of a unit keep their content: what is read of a literal is all that is written
between its quotation marks, keys with the same quotation mark are equal only if they are written
the same, and the specifiers of a unit whose sources are literals are what is written in these. -/
structure KeepsLiterals (unit : SourceUnit) : Prop where
  values : ∀ literal : StringLiteral unit.document,
    unit.document.literalText literal.node = literal.content
  keys : ∀ first second : StringLiteral unit.document, first.mark = second.mark →
    unit.document.writtenKey? first.node = unit.document.writtenKey? second.node →
      unit.document.textOf first.node = unit.document.textOf second.node
  specifiers : (∀ source, unit.IsSource source →
      ∃ literal : StringLiteral unit.document, literal.node = source) →
    ∀ specifier, specifier ∈ unit.specifiers ↔
      isRelative specifier = true ∧
        ∃ literal : StringLiteral unit.document, unit.IsSource literal.node ∧
          literal.content = specifier

/-- **Literals and their content.** The literals of a unit keep their content exactly if all of them
are plain: a single fragment, or escape sequences only without a quotation mark at an end. In any
case what is read of a literal is a piece of its content, and it is all of it exactly if the literal
is plain. -/
theorem keepsLiterals_iff (unit : SourceUnit) :
    (unit.KeepsLiterals ↔ ∀ literal : StringLiteral unit.document, literal.IsPlain) ∧
      ∀ literal : StringLiteral unit.document,
        (unit.document.literalText literal.node).toList <:+: literal.content.toList ∧
          (unit.document.literalText literal.node = literal.content ↔ literal.IsPlain) := by
  refine ⟨⟨?_, ?_⟩, fun literal =>
    ⟨literal.literalText_infix, literal.literalText_eq_content_iff⟩⟩
  · intro keeps literal
    exact literal.literalText_eq_content_iff.mp (keeps.values literal)
  · intro plain
    have values (literal : StringLiteral unit.document) :
        unit.document.literalText literal.node = literal.content :=
      literal.literalText_eq_content_iff.mpr (plain literal)
    refine ⟨values, ?keys, ?specifiers⟩
    case keys =>
      intro first second sameMark same
      exact ((plain first).writtenKey?_eq_iff (plain second) sameMark).mp same
    case specifiers =>
      intro literals specifier
      rw [mem_specifiers_iff_isSource]
      apply and_congr_right
      intro _
      constructor
      · rintro ⟨source, isSource, read⟩
        obtain ⟨literal, rfl⟩ := literals source isSource
        exact ⟨literal, isSource, (values literal).symm.trans read⟩
      · rintro ⟨literal, isSource, written⟩
        exact ⟨literal.node, isSource, (values literal).trans written⟩

def escapedKeyNodes : Array Node :=
  #[⟨.program, true, none, 0, 47, none⟩, ⟨.lexicalDeclaration, true, none, 0, 40, some 0⟩,
    ⟨.other "const", false, none, 0, 5, some 1⟩, ⟨.variableDeclarator, true, none, 6, 39, some 1⟩,
    ⟨.identifier, true, some .name, 6, 7, some 3⟩, ⟨.other "=", false, none, 8, 9, some 3⟩,
    ⟨.objectLiteral, true, some .value, 10, 39, some 3⟩,
    ⟨.other "\x7b", false, none, 10, 11, some 6⟩, ⟨.pair, true, none, 12, 37, some 6⟩,
    ⟨.stringLiteral, true, some .key, 12, 21, some 8⟩,
    ⟨.other "\x22", false, none, 12, 13, some 9⟩, ⟨.stringFragment, true, none, 13, 14, some 9⟩,
    ⟨.other "escape_sequence", true, none, 14, 20, some 9⟩,
    ⟨.other "\x22", false, none, 20, 21, some 9⟩, ⟨.other ":", false, none, 21, 22, some 8⟩,
    ⟨.arrowFunction, true, some .value, 23, 37, some 8⟩,
    ⟨.asyncWord, false, none, 23, 28, some 15⟩,
    ⟨.other "formal_parameters", true, some .parameters, 29, 31, some 15⟩,
    ⟨.other "(", false, none, 29, 30, some 17⟩, ⟨.other ")", false, none, 30, 31, some 17⟩,
    ⟨.other "=>", false, none, 32, 34, some 15⟩,
    ⟨.statementBlock, true, some .body, 35, 37, some 15⟩,
    ⟨.other "\x7b", false, none, 35, 36, some 21⟩, ⟨.other "\x7d", false, none, 36, 37, some 21⟩,
    ⟨.other "\x7d", false, none, 38, 39, some 6⟩, ⟨.other ";", false, none, 39, 40, some 1⟩,
    ⟨.expressionStatement, true, none, 41, 47, some 0⟩,
    ⟨.callExpression, true, none, 41, 46, some 26⟩,
    ⟨.memberExpression, true, some .callee, 41, 44, some 27⟩,
    ⟨.identifier, true, some .object, 41, 42, some 28⟩, ⟨.other ".", false, none, 42, 43, some 28⟩,
    ⟨.propertyIdentifier, true, some .property, 43, 44, some 28⟩,
    ⟨.other "arguments", true, none, 44, 46, some 27⟩, ⟨.other "(", false, none, 44, 45, some 32⟩,
    ⟨.other ")", false, none, 45, 46, some 32⟩, ⟨.other ";", false, none, 46, 47, some 26⟩]

def escapedKey : SourceUnit where
  document :=
    { text := "const o = \x7b \x22q\\u0074\x22: async () => \x7b\x7d \x7d;\no.q();"
      tree :=
        { nodes := escapedKeyNodes
          ends := Tree.endsOf escapedKeyNodes
          nonempty := by decide +kernel
          ends_size := by decide +kernel
          nested := by decide +kernel } }
  path? := some ⟨"main.ts"⟩
  dialect := .typeScript

def escapedKeyLiteral : StringLiteral escapedKey.document where
  node := 9
  mark := '\x22'
  opening := 10
  parts := [11, 12]
  closing := 13
  kind := by decide +kernel
  quotes := by decide
  children := by decide +kernel
  tokens := by decide +kernel
  cut := by decide +kernel
  fills := by decide +kernel

/-- The key `"q\u0074"` is read as `q`, and so the promise under it is one of the member `q`. -/
theorem not_keepsLiterals_escapedKey :
    escapedKeyLiteral.content = "q\\u0074" ∧
      escapedKey.document.writtenKey? escapedKeyLiteral.node = some "q" ∧
      (∃ registry, escapedKey.document.collectRegistry.under .lowered = .ok registry ∧
        registry.entries = [.member "o" "q"]) ∧
      ¬ escapedKey.KeepsLiterals := by
  have content : escapedKeyLiteral.content = "q\\u0074" := by decide +kernel
  have read : escapedKey.document.literalText escapedKeyLiteral.node = "q" := by decide +kernel
  have collected : (escapedKey.document.settledWork
      (escapedKey.document.instancesOf escapedKey.document.tree.walkOrder)
      (escapedKey.document.definitionsOf escapedKey.document.tree.walkOrder)).registry.entries =
        [.member "o" "q"] := by
    rw [Tree.walkOrder_eq]
    decide +kernel
  refine ⟨content, by rw [escapedKeyLiteral.writtenKey?_eq, read],
    ⟨_, escapedKey.document.collectRegistry_lowered, collected⟩, fun keeps => ?_⟩
  have same := keeps.values escapedKeyLiteral
  rw [content, read] at same
  exact absurd same (by decide)

end SourceUnit

end PromiseDetection

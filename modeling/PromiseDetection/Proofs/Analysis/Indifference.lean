import PromiseDetection.Proofs.Analysis.Cancellation
import PromiseDetection.Proofs.Heuristic.Retelling

/-!
Comments and literals make no difference to the heuristic.

Two units of one tree may differ in the own text of their comments, strings, templates and regular
expressions as much as they like: they have one registry and the same heuristic spans. The code
inside a template is no part of the own text of the template, and it does make a difference.
-/

namespace PromiseDetection.SourceUnit

variable {unit other : SourceUnit}

/-- **Indifference.** Units that differ in the own text of comments and literals alone have the same
registry and the same heuristic spans, and they are cancelled alike. -/
theorem heuristic_eq_of_agreesOutside (parsed : unit.document.IsParsed)
    (parsedToo : other.document.IsParsed) (same : other.tree = unit.tree)
    (agrees : unit.document.AgreesOutside other.document unit.tree.InOwnText) :
    other.document.collectRegistry = unit.document.collectRegistry ∧
      ∀ grammar disk,
        other.spans grammar disk .heuristic = unit.spans grammar disk .heuristic := by
  have retells : unit.document.Retells other.document := parsed.retells parsedToo same agrees
  refine ⟨retells.collectRegistry, ?_⟩
  intro _ _
  simp only [spans, heuristicSpans, retells.collectRegistry, retells.candidateVerdict, same]

theorem agreesOutside_of_bounded {document other : Document} {hidden : Nat → Prop} (bound : Nat)
    (size : document.text.toByteArray.size ≤ bound)
    (sizeToo : other.text.toByteArray.size ≤ bound)
    (same : ∀ offset < bound, ¬ hidden offset →
      Text.byteAt? other.text offset = Text.byteAt? document.text offset) :
    document.AgreesOutside other hidden := by
  intro offset visible
  rcases Nat.lt_or_ge offset bound with before | behind
  · exact same offset before visible
  · rw [Text.byteAt?_eq_none_iff.mpr (Nat.le_trans sizeToo behind),
      Text.byteAt?_eq_none_iff.mpr (Nat.le_trans size behind)]

def annotatedNodes : Array Node :=
  #[⟨.program, true, none, 0, 15, none⟩,
    ⟨.expressionStatement, true, none, 0, 10, some 0⟩,
    ⟨.callExpression, true, none, 0, 10, some 1⟩,
    ⟨.identifier, true, some .callee, 0, 5, some 2⟩,
    ⟨.other "arguments", true, none, 5, 10, some 2⟩, ⟨.other "(", false, none, 5, 6, some 4⟩,
    ⟨.stringLiteral, true, none, 6, 9, some 4⟩, ⟨.other "\x27", false, none, 6, 7, some 6⟩,
    ⟨.stringFragment, true, none, 7, 8, some 6⟩, ⟨.other "\x27", false, none, 8, 9, some 6⟩,
    ⟨.other ")", false, none, 9, 10, some 4⟩, ⟨.comment, true, none, 11, 15, some 0⟩]

def annotatedTree : Tree where
  nodes := annotatedNodes
  ends := Tree.endsOf annotatedNodes
  nonempty := by decide +kernel
  ends_size := by decide +kernel
  nested := by decide +kernel

def annotated (text : String) : SourceUnit where
  document := { text, tree := annotatedTree }
  path? := none
  dialect := .typeScript

theorem heuristic_eq_of_agreesOutside_annotated :
    (annotated "fetch('a') // b").document.IsParsed ∧
      (annotated "fetch('x') // y").document.IsParsed ∧
      (annotated "fetch('a') // b").document.AgreesOutside
          (annotated "fetch('x') // y").document annotatedTree.InOwnText ∧
        (annotated "fetch('x') // y").document.collectRegistry =
            (annotated "fetch('a') // b").document.collectRegistry ∧
          (annotated "fetch('x') // y").spans (fun _ _ => default) ⟨[], []⟩ .heuristic =
            (annotated "fetch('a') // b").spans (fun _ _ => default) ⟨[], []⟩ .heuristic := by
  have parsed : (annotated "fetch('a') // b").document.IsParsed := by decide +kernel
  have parsedToo : (annotated "fetch('x') // y").document.IsParsed := by decide +kernel
  have agrees : (annotated "fetch('a') // b").document.AgreesOutside
      (annotated "fetch('x') // y").document annotatedTree.InOwnText :=
    agreesOutside_of_bounded 15 (by decide +kernel) (by decide +kernel) (by decide +kernel)
  obtain ⟨registry, spans⟩ :=
    heuristic_eq_of_agreesOutside parsed parsedToo rfl agrees
  exact ⟨parsed, parsedToo, agrees, registry, spans _ _⟩

def interpolatedNodes : Array Node :=
  #[⟨.program, true, none, 0, 12, none⟩,
    ⟨.expressionStatement, true, none, 0, 12, some 0⟩,
    ⟨.templateString, true, none, 0, 12, some 1⟩, ⟨.other "\x60", false, none, 0, 1, some 2⟩,
    ⟨.other "template_substitution", true, none, 1, 11, some 2⟩,
    ⟨.other "$\x7b", false, none, 1, 3, some 4⟩,
    ⟨.callExpression, true, none, 3, 10, some 4⟩,
    ⟨.identifier, true, some .callee, 3, 8, some 6⟩,
    ⟨.other "arguments", true, none, 8, 10, some 6⟩, ⟨.other "(", false, none, 8, 9, some 8⟩,
    ⟨.other ")", false, none, 9, 10, some 8⟩, ⟨.other "\x7d", false, none, 10, 11, some 4⟩,
    ⟨.other "\x60", false, none, 11, 12, some 2⟩]

def interpolatedTree : Tree where
  nodes := interpolatedNodes
  ends := Tree.endsOf interpolatedNodes
  nonempty := by decide +kernel
  ends_size := by decide +kernel
  nested := by decide +kernel

def interpolated (text : String) : SourceUnit where
  document := { text, tree := interpolatedTree }
  path? := none
  dialect := .typeScript

/-- The code in a template lies inside a literal, and it does make a difference. -/
theorem not_heuristic_eq_of_agreesOutside_inProse :
    ¬ ∀ unit other : SourceUnit, unit.document.IsParsed → other.document.IsParsed →
      other.tree = unit.tree →
        unit.document.AgreesOutside other.document unit.tree.InProse →
          other.document.collectRegistry = unit.document.collectRegistry ∧
            ∀ grammar disk,
              other.spans grammar disk .heuristic = unit.spans grammar disk .heuristic := by
  intro indifferent
  have parsed : (interpolated "\x60$\x7bfetch()\x7d\x60").document.IsParsed := by decide +kernel
  have parsedToo : (interpolated "\x60$\x7bpatch()\x7d\x60").document.IsParsed := by
    decide +kernel
  have agrees : (interpolated "\x60$\x7bfetch()\x7d\x60").document.AgreesOutside
      (interpolated "\x60$\x7bpatch()\x7d\x60").document interpolatedTree.InProse :=
    agreesOutside_of_bounded 12 (by decide +kernel) (by decide +kernel) (by decide +kernel)
  obtain ⟨-, spans⟩ := indifferent _ _ parsed parsedToo rfl agrees
  have found : (((interpolated "\x60$\x7bfetch()\x7d\x60").spans (fun _ _ => default) ⟨[], []⟩
      .heuristic).under .lowered).toOption = some [⟨3, 8⟩] := by decide +kernel
  have missed : (((interpolated "\x60$\x7bpatch()\x7d\x60").spans (fun _ _ => default) ⟨[], []⟩
      .heuristic).under .lowered).toOption = some [] := by decide +kernel
  rw [spans, found] at missed
  cases missed

end PromiseDetection.SourceUnit

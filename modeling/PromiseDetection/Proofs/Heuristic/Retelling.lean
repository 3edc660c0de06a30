import PromiseDetection.Analysis.Spans
import PromiseDetection.Proofs.Code.OwnText

/-!
Documents that retell each other are judged alike.

Whatever the heuristic reads of a text is a name or a key. So two such documents give every function
and every call one verdict under one registry, they make the same definitions, the two worklists
take the same steps, and the registries and the spans at the end are the same.
-/

namespace PromiseDetection.Document.Retells

variable {document other : Document} {node : Nat}

theorem textOf_name (retells : document.Retells other) {kind : Kind}
    (found : document.tree.kind node = kind) (name : kind.isName = true) :
    other.textOf node = document.textOf node :=
  retells.names node (found ▸ name)

theorem nameOfClass? (retells : document.Retells other)
    (owner : document.tree.isClass node = true) :
    other.nameOfClass? node = document.nameOfClass? node := by
  unfold Document.nameOfClass?
  dsimp only
  rw [retells.tree]
  cases named : document.tree.childWith? node .name with
  | some name =>
    dsimp only
    rw [retells.classes node name owner named]
  | none =>
    apply Option.bind_congr
    intro parent _
    split
    · apply Option.bind_congr
      intro name _
      split
      · next kind => rw [retells.textOf_name kind rfl]
      · rfl
    · rfl

theorem isClass_of_thisClass? {tree : Tree} {owner : Nat}
    (found : tree.thisClass? node = some owner) : tree.isClass owner = true := by
  fun_induction tree.thisClass? node with
  | case1 => cases found
  | case2 position parent _ owned =>
    cases found
    exact owned
  | case3 => cases found
  | case4 position parent _ _ _ inductionHypothesis => exact inductionHypothesis found

theorem nameOfThisClass? (retells : document.Retells other) (position : Nat) :
    (other.tree.thisClass? position).bind other.nameOfClass? =
      (document.tree.thisClass? position).bind document.nameOfClass? := by
  rw [retells.tree]
  cases found : document.tree.thisClass? position with
  | none => rfl
  | some owner => exact retells.nameOfClass? (isClass_of_thisClass? found)

theorem writtenKey? (retells : document.Retells other)
    (key : document.tree.kind node = .stringLiteral → document.tree.isKey node = true) :
    other.writtenKey? node = document.writtenKey? node := by
  unfold Document.writtenKey?
  rw [retells.tree]
  split
  · next kind => rw [retells.textOf_name kind rfl]
  · next kind => rw [retells.textOf_name kind rfl]
  · next kind => rw [retells.textOf_name kind rfl]
  · next kind => rw [retells.textOf_name kind rfl]
  · next kind => rw [retells.keys node (key kind)]
  · rfl

theorem keyIn? (retells : document.Retells other) {member : Nat} {role : Field}
    (keyed : role ∈ (document.tree.kind member).keyRoles) :
    other.keyIn? member role = document.keyIn? member role := by
  unfold Document.keyIn?
  rw [retells.tree]
  cases found : document.tree.childWith? member role with
  | none => rfl
  | some key =>
    apply retells.writtenKey?
    intro kind
    exact Tree.isKey_iff.mpr ⟨kind, member, role, keyed, found⟩

theorem declaresPromise (retells : document.Retells other) (function : Nat) :
    other.declaresPromise function = document.declaresPromise function := by
  unfold Document.declaresPromise
  dsimp only
  rw [retells.tree]
  cases (document.tree.childWith? function .returnType).bind document.tree.firstOperand? with
  | none => rfl
  | some declared =>
    dsimp only
    split
    · next kind => rw [retells.textOf_name kind rfl]
    · next kind =>
      cases named : document.tree.childWith? declared .name with
      | none => rfl
      | some name => exact retells.types declared name kind named
    · rfl

theorem callVerdict (retells : document.Retells other) (registry : Registry) (call : Nat) :
    other.callVerdict registry call = document.callVerdict registry call := by
  unfold Document.callVerdict
  dsimp only
  rw [retells.nameOfThisClass?, retells.tree]
  cases document.tree.childWith? call .callee with
  | none => rfl
  | some callee =>
    dsimp only
    split
    · next kind => rw [retells.textOf_name kind rfl]
    · next kind =>
      split
      · next receiver property _ found =>
        rw [retells.members callee property kind found]
        split
        · next kind => rw [retells.textOf_name kind rfl]
        · rfl
        · rfl
      · rfl
    · rfl

theorem returnedVerdict (retells : document.Retells other) (registry : Registry)
    (returned : Nat) :
    other.returnedVerdict registry returned = document.returnedVerdict registry returned := by
  unfold Document.returnedVerdict
  dsimp only
  rw [retells.tree]
  split
  · rfl
  · split
    · next constructed _ =>
      by_cases kind : document.tree.kind constructed = .identifier
      · rw [retells.textOf_name kind rfl]
      · simp only [kind, decide_false, Bool.false_and]
    · rfl
  · exact retells.callVerdict registry _
  · rfl

theorem functionVerdict (retells : document.Retells other) (registry : Registry)
    (function : Nat) :
    other.functionVerdict registry function = document.functionVerdict registry function := by
  unfold Document.functionVerdict
  rw [retells.declaresPromise, funext (retells.returnedVerdict registry), retells.tree]

theorem candidateVerdict (retells : document.Retells other) (registry : Registry)
    (candidate : Candidate) :
    other.candidateVerdict registry candidate = document.candidateVerdict registry candidate := by
  unfold Document.candidateVerdict
  cases candidate.kind with
  | function => exact retells.functionVerdict registry candidate.node
  | call => exact retells.callVerdict registry candidate.node

theorem kind_of_variableAndValue? {position target value : Nat}
    (found : document.variableAndValue? position = some (target, value)) :
    document.tree.kind target = .identifier := by
  unfold Document.variableAndValue? at found
  dsimp only at found
  split at found <;>
    simp only [Option.bind_eq_bind, Option.bind_some, Option.bind_none, Option.bind_eq_some_iff,
      Option.ite_none_right_eq_some, Option.some.injEq, Prod.mk.injEq, reduceCtorEq] at found
  · obtain ⟨name, -, assigned, -, kind, rfl, rfl⟩ := found
    exact kind
  · obtain ⟨name, -, assigned, -, kind, rfl, rfl⟩ := found
    exact kind

theorem variableAndValue? (retells : document.Retells other) (position : Nat) :
    other.variableAndValue? position = document.variableAndValue? position := by
  unfold Document.variableAndValue?
  rw [retells.tree]

theorem instanceBinding? (retells : document.Retells other) (position : Nat) :
    other.instanceBinding? position = document.instanceBinding? position := by
  unfold Document.instanceBinding?
  dsimp only
  rw [retells.variableAndValue?, retells.tree]
  apply Option.bind_congr
  rintro ⟨target, assigned⟩ bound
  dsimp only
  split
  · apply Option.bind_congr
    intro constructed _
    split
    · next kind =>
      rw [retells.textOf_name kind rfl,
        retells.textOf_name (kind_of_variableAndValue? bound) rfl]
    · rfl
  · rfl

theorem classAround? (retells : document.Retells other) (member : Nat) :
    other.classAround? member = document.classAround? member := by
  unfold Document.classAround?
  rw [retells.nameOfThisClass?, retells.tree]

theorem key_of_either {tree : Tree} {parent name : Nat} {plain : Nat → Bool}
    (found : ((tree.childWith? parent .name).or (tree.childWith? parent .property)).filter plain =
      some name) :
    ∃ role ∈ [Field.name, .property], tree.childWith? parent role = some name := by
  rcases Option.or_eq_some_iff.mp (Option.filter_eq_some_iff.mp found).1 with first | ⟨_, second⟩
  · exact ⟨.name, by decide, first⟩
  · exact ⟨.property, by decide, second⟩

theorem name_of_binder? {tree : Tree} {expression name : Nat} {binder : Binder}
    (bound : tree.binder? expression = some binder) (named : binder.name? = some name) :
    (binder.kind = .variable → tree.kind name = .identifier) ∧
      (binder.kind = .field → ∃ role ∈ (tree.kind binder.node).keyRoles,
        tree.childWith? binder.node role = some name) := by
  simp only [Tree.binder?, Option.bind_eq_bind, Option.bind_eq_some_iff] at bound
  obtain ⟨⟨wrapped, place⟩, -, bound⟩ := bound
  split at bound
  · split at bound <;> cases bound
    refine ⟨fun _ => ?_, by simp⟩
    simpa using (Option.filter_eq_some_iff.mp named).2
  · split at bound <;> cases bound
    exact ⟨by simp, by simp⟩
  · next kind =>
    split at bound <;> cases bound
    refine ⟨by simp, fun _ => ?_⟩
    rw [kind]
    exact key_of_either named
  · next kind =>
    split at bound <;> cases bound
    refine ⟨by simp, fun _ => ?_⟩
    rw [kind]
    exact key_of_either named
  · split at bound
    · obtain ⟨left, -, bound⟩ := Option.bind_eq_some_iff.mp bound
      split at bound <;> cases bound
      · next kind =>
        cases named
        exact ⟨fun _ => kind, by simp⟩
      · exact ⟨by simp, by simp⟩
    · cases bound
  · cases bound

theorem entryOfFunction? (retells : document.Retells other) (function : Nat) :
    other.entryOfFunction? function = document.entryOfFunction? function := by
  unfold Document.entryOfFunction?
  dsimp only
  rw [retells.tree]
  split
  · next kind =>
    cases found : document.tree.childWith? function .name with
    | none => rfl
    | some name =>
      simp only [Option.map_some, retells.functions function name (.inl kind) found]
  · next kind =>
    cases found : document.tree.childWith? function .name with
    | none => rfl
    | some name =>
      simp only [Option.map_some, retells.functions function name (.inr kind) found]
  · next kind => rw [retells.classAround?, retells.keyIn? (by rw [kind]; decide)]
  · apply Option.bind_congr
    intro binder bound
    apply Option.bind_congr
    intro name named
    obtain ⟨ofVariable, ofField⟩ := name_of_binder? bound named
    split
    · next kind => rw [retells.textOf_name (ofVariable kind) rfl]
    · next kind =>
      obtain ⟨role, keyed, held⟩ := ofField kind
      rw [retells.classAround?, retells.writtenKey? fun string =>
        Tree.isKey_iff.mpr ⟨string, binder.node, role, keyed, held⟩]
    · rfl
    · rfl

theorem memberDefinition? (retells : document.Retells other) (object : String) (element : Nat) :
    other.memberDefinition? object element = document.memberDefinition? object element := by
  unfold Document.memberDefinition?
  dsimp only
  rw [retells.tree]
  split
  · next kind => rw [retells.textOf_name kind rfl]
  · next kind =>
    apply Option.bind_congr
    intro key found
    apply Option.bind_congr
    intro assigned _
    have keyed : document.tree.kind key = .stringLiteral → document.tree.isKey key = true :=
      fun string => Tree.isKey_iff.mpr
        ⟨string, element, .key, by rw [kind]; exact List.mem_singleton_self _, found⟩
    rw [retells.writtenKey? keyed]
    apply Option.bind_congr
    intro member _
    split
    · next kind => rw [retells.textOf_name kind rfl]
    · rfl
  · next kind => rw [retells.keyIn? (by rw [kind]; decide)]
  · rfl

theorem definitionsOfNode (retells : document.Retells other) (position : Nat) :
    other.definitionsOfNode position = document.definitionsOfNode position := by
  unfold Document.definitionsOfNode
  dsimp only
  rw [retells.tree, retells.entryOfFunction?, retells.variableAndValue?]
  split
  · rfl
  · cases bound : document.variableAndValue? position with
    | none => rfl
    | some binding =>
      obtain ⟨target, assigned⟩ := binding
      dsimp only
      rw [retells.textOf_name (kind_of_variableAndValue? bound) rfl,
        funext (retells.memberDefinition? (document.textOf target))]

theorem callDependencies (retells : document.Retells other) (registry : Registry) (call : Nat) :
    other.callDependencies registry call = document.callDependencies registry call := by
  unfold Document.callDependencies
  dsimp only
  rw [retells.nameOfThisClass?, retells.tree]
  cases document.tree.childWith? call .callee with
  | none => rfl
  | some callee =>
    dsimp only
    split
    · next kind => rw [retells.textOf_name kind rfl]
    · next kind =>
      split
      · next receiver property _ found =>
        rw [retells.members callee property kind found]
        split
        · next kind => rw [retells.textOf_name kind rfl]
        · rfl
        · rfl
      · rfl
    · rfl

theorem isPositive (retells : document.Retells other) (registry : Registry)
    (definition : Definition) :
    definition.isPositive other registry = definition.isPositive document registry := by
  unfold Definition.isPositive
  cases definition.ground with
  | function node => exact retells.functionVerdict registry node
  | _ => rfl

theorem dependencies (retells : document.Retells other) (registry : Registry)
    (definition : Definition) :
    definition.dependencies other registry = definition.dependencies document registry := by
  unfold Definition.dependencies
  cases definition.ground with
  | function node =>
    dsimp only
    rw [retells.tree, funext (retells.callDependencies registry)]
  | _ => rfl

theorem tryRegister (retells : document.Retells other) :
    Worklist.tryRegister other = Worklist.tryRegister document := by
  funext work definition
  unfold Worklist.tryRegister
  rw [retells.isPositive]

theorem retry (retells : document.Retells other) :
    Worklist.retry other = Worklist.retry document := by
  funext work definition
  unfold Worklist.retry
  rw [retells.tryRegister]

theorem advance (retells : document.Retells other) :
    Worklist.advance other = Worklist.advance document := by
  funext work entry rest
  unfold Worklist.advance
  rw [retells.retry]

/-- The worklists of both documents take the same steps until nothing is left. -/
theorem settle (retells : document.Retells other) (work : Worklist) :
    Worklist.settle other work = Worklist.settle document work := by
  fun_induction Worklist.settle document work with
  | case1 work front =>
    rw [Worklist.settle, front]
  | case2 work entry rest front inductionHypothesis =>
    rw [Worklist.settle, front]
    dsimp only
    rw [retells.advance]
    exact inductionHypothesis

theorem settledWork (retells : document.Retells other) (registry : Registry)
    (definitions : List Definition) :
    other.settledWork registry definitions = document.settledWork registry definitions := by
  have waits : other.waits registry definitions = document.waits registry definitions := by
    unfold Document.waits
    rw [funext (retells.dependencies registry)]
  unfold Document.settledWork Document.firstPass
  rw [retells.settle, retells.tryRegister, waits]

theorem collectRegistry (retells : document.Retells other) :
    other.collectRegistry = document.collectRegistry := by
  have instances : other.instancesOf = document.instancesOf := by
    funext visited
    unfold Document.instancesOf
    rw [funext retells.instanceBinding?]
  have definitions : other.definitionsOf = document.definitionsOf := by
    funext visited
    unfold Document.definitionsOf
    rw [funext retells.definitionsOfNode]
  unfold Document.collectRegistry
  simp only [retells.tree, instances, definitions, retells.settledWork]

end PromiseDetection.Document.Retells

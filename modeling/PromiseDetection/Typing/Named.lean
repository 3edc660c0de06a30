import PromiseDetection.Modules.Export
import PromiseDetection.Typing.Written

/-!
Looking up what type names stand for.

Every look-up uses up one of a number of levels, so a name that leads back to itself runs out of
levels instead of going on for ever.
-/

namespace PromiseDetection.ModuleGraph

def writtenType (graph : ModuleGraph) (place : Site) : Ty :=
  (graph.document place.module).writtenType place.module place.node

def textOf (graph : ModuleGraph) (place : Site) : String :=
  (graph.document place.module).textOf place.node

/-- The declaration of a type name. A dotted name is looked up in the module that its first part
stands for, and the rest is the name the declaration goes by. -/
def namedDeclaration (graph : ModuleGraph) (name : String) (place : Site) :
    Except InferenceError (Declaration × String) :=
  match Text.fields '.' name with
  | first :: rest@(_ :: _) => do
    let inner := String.intercalate "." rest
    match ← graph.valueNamed first place with
    | .imported (some module) _ .wholeModule =>
      return (← graph.exportedType module inner, inner)
    | _ => .error (.noSuchType name)
  | _ => do return (← graph.typeNamed name place, name)

def inherit (members inherited : List (String × Ty)) : List (String × Ty) :=
  inherited.foldl
    (fun known member =>
      if known.any fun other => other.1 == member.1 then known else known ++ [member])
    members

mutual

def declaredType (graph : ModuleGraph) : Nat → Declaration → String → Except InferenceError Ty
  | 0, _, _ => .error .tooDeep
  | levels + 1, declaration, name =>
    match declaration with
    | .interface place => (graph.membersOfInterface levels place).map Ty.object
    | .alias place =>
      match (graph.tree place.module).childWith? place.node .value with
      | some value => .ok (graph.writtenType (place.withNode value))
      | none => .error (.noSuchType name)
    | .classLike place => .ok (.instanceOf place)
    | .typeParameter => .ok .unknown
    | .imported none specifier _ => .error (.noSuchModule specifier)
    | .imported (some module) _ binding =>
      match binding with
      | .named exported => do
        graph.declaredType levels (← graph.exportedType module exported) exported
      | .defaultExport => do
        graph.declaredType levels (← graph.exportedType module "default") name
      | .wholeModule => .ok (.wholeModule module)
    | .builtin builtin => .ok (.builtin builtin)
    | .function _ | .variable _ | .parameter _ | .expression _ => .error (.noSuchType name)

/-- The members of an interface: its own first, then what it inherits. A parent that cannot be
looked up is passed over. -/
def membersOfInterface (graph : ModuleGraph) :
    Nat → Site → Except InferenceError (List (String × Ty))
  | 0, _ => .error .tooDeep
  | levels + 1, place =>
    let document := graph.document place.module
    let tree := document.tree
    let own :=
      match tree.childWith? place.node .body with
      | some body => document.membersOfSignatures place.module body
      | none => []
    match tree.childOfKind? place.node .extendsTypeClause with
    | none => .ok own
    | some clause =>
      .ok <| (tree.namedChildren clause).foldl
        (fun members parent =>
          match graph.lookThrough levels (graph.writtenType (place.withNode parent)) with
          | .ok (.object inherited) => inherit members inherited
          | _ => members)
        own

/-- Looks names up until something else than a name is left. -/
def lookThrough (graph : ModuleGraph) : Nat → Ty → Except InferenceError Ty
  | 0, .named _ _ => .error .tooDeep
  | levels + 1, .named name place => do
    let (declaration, known) ← graph.namedDeclaration name place
    graph.lookThrough levels (← graph.declaredType levels declaration known)
  | _, type => .ok type

end

/-- Is a type a function, or a union with a function among its alternatives? -/
def canBeCalled (graph : ModuleGraph) : Nat → Ty → Bool
  | 0, _ => false
  | levels + 1, type =>
    match type with
    | .returning _ | .inferred _ | .builtin .fetch => true
    | .union alternatives => alternatives.any (graph.canBeCalled levels)
    | .named _ _ =>
      match graph.lookThrough levels type with
      | .ok expanded => graph.canBeCalled levels expanded
      | .error _ => false
    | _ => false

end PromiseDetection.ModuleGraph

import PromiseDetection.Modules.Declaration

/-!
The types that inference works with.

A type refers to nodes of modules instead of holding what is written there. Names are looked up and
function bodies are read only when somebody asks.
-/

namespace PromiseDetection

inductive Primitive where
  | string
  | number
  | boolean
  | bigint
  | symbol
  | void
  | undefined
  | null
  | never
  | object
  | literal
  | array
  /-- The result of an operator that only computes. -/
  | computed
  | generator
  | asyncGenerator
  deriving DecidableEq, Repr

namespace Primitive

def name : Primitive → String
  | .string => "string"
  | .number => "number"
  | .boolean => "boolean"
  | .bigint => "bigint"
  | .symbol => "symbol"
  | .void => "void"
  | .undefined => "undefined"
  | .null => "null"
  | .never => "never"
  | .object => "object"
  | .literal => "literal"
  | .array => "array"
  | .computed => "primitive"
  | .generator => "generator"
  | .asyncGenerator => "async generator"

def ofKeyword? : String → Option Primitive
  | "string" => some .string
  | "number" => some .number
  | "boolean" => some .boolean
  | "bigint" => some .bigint
  | "symbol" => some .symbol
  | "void" => some .void
  | "undefined" => some .undefined
  | "null" => some .null
  | "never" => some .never
  | "object" => some .object
  | _ => none

end Primitive

inductive Ty where
  /-- Anything inference does not describe. -/
  | unknown
  | primitive (sort : Primitive)
  | promise (inner : Ty)
  /-- A type name, to be looked up at the place where it is written. -/
  | named (name : String) (place : Site)
  | union (alternatives : List Ty)
  | object (members : List (String × Ty))
  | returning (result : Ty)
  /-- A function whose return type is found in its body. -/
  | inferred (function : Site)
  | classValue (place : Site)
  | instanceOf (place : Site)
  | wholeModule (module : Nat)
  | builtin (known : Builtin)
  deriving Inhabited

namespace Ty

/-- The type of some alternatives: nothing at all is `void`, and one alternative is itself. -/
def ofAlternatives : List Ty → Ty
  | [] => .primitive .void
  | [type] => type
  | types => .union types

/-- The alternatives of a type, which is its own only alternative unless it is a union. -/
def alternatives : Ty → List Ty
  | .union types => types
  | type => [type]

mutual

def unionDepth : Ty → Nat
  | .union types => greatestUnionDepth types + 1
  | _ => 0

def greatestUnionDepth : List Ty → Nat
  | [] => 0
  | type :: rest => max type.unionDepth (greatestUnionDepth rest)

end

def describe : Ty → String
  | .unknown => "unknown"
  | .primitive sort => sort.name
  | .promise _ => "Promise"
  | .named text _ => text
  | .union _ => "union"
  | .object _ => "object"
  | .returning _ | .inferred _ => "function"
  | .classValue _ => "class"
  | .instanceOf _ => "instance"
  | .wholeModule _ => "namespace"
  | .builtin known => known.name

mutual

def sameAs : Ty → Ty → Bool
  | .unknown, .unknown => true
  | .primitive first, .primitive second => first = second
  | .promise first, .promise second => sameAs first second
  | .named first place, .named second other => first = second && place = other
  | .union first, .union second => allSameAs first second
  | .object first, .object second => membersSameAs first second
  | .returning first, .returning second => sameAs first second
  | .inferred first, .inferred second => first = second
  | .classValue first, .classValue second => first = second
  | .instanceOf first, .instanceOf second => first = second
  | .wholeModule first, .wholeModule second => first = second
  | .builtin first, .builtin second => first = second
  | _, _ => false

def allSameAs : List Ty → List Ty → Bool
  | [], [] => true
  | first :: others, second :: rest => sameAs first second && allSameAs others rest
  | _, _ => false

def membersSameAs : List (String × Ty) → List (String × Ty) → Bool
  | [], [] => true
  | (name, first) :: others, (known, second) :: rest =>
    name = known && sameAs first second && membersSameAs others rest
  | _, _ => false

end

mutual

theorem eq_of_sameAs : ∀ {first second : Ty}, first.sameAs second = true → first = second
  | first, second, same => by
    cases first <;> cases second <;> simp_all [sameAs]
    · exact eq_of_sameAs same
    · exact eq_of_allSameAs same
    · exact eq_of_membersSameAs same
    · exact eq_of_sameAs same

theorem eq_of_allSameAs : ∀ {first second : List Ty}, allSameAs first second = true → first = second
  | [], [], _ => rfl
  | [], _ :: _, same => by simp [allSameAs] at same
  | _ :: _, [], same => by simp [allSameAs] at same
  | first :: others, second :: rest, same => by
    simp only [allSameAs, Bool.and_eq_true] at same
    rw [eq_of_sameAs same.1, eq_of_allSameAs same.2]

theorem eq_of_membersSameAs : ∀ {first second : List (String × Ty)},
    membersSameAs first second = true → first = second
  | [], [], _ => rfl
  | [], _ :: _, same => by simp [membersSameAs] at same
  | _ :: _, [], same => by simp [membersSameAs] at same
  | (name, first) :: others, (known, second) :: rest, same => by
    simp only [membersSameAs, Bool.and_eq_true, decide_eq_true_eq] at same
    rw [same.1.1, eq_of_sameAs same.1.2, eq_of_membersSameAs same.2]

end

mutual

theorem sameAs_refl : ∀ type : Ty, type.sameAs type = true
  | .promise inner | .returning inner => by simp only [sameAs, sameAs_refl inner]
  | .union types => by simp only [sameAs, allSameAs_refl types]
  | .object members => by simp only [sameAs, membersSameAs_refl members]
  | .unknown | .primitive _ | .named _ _ | .inferred _ | .classValue _ | .instanceOf _
  | .wholeModule _ | .builtin _ => by simp [sameAs]

theorem allSameAs_refl : ∀ types : List Ty, allSameAs types types = true
  | [] => rfl
  | type :: rest => by simp [allSameAs, sameAs_refl type, allSameAs_refl rest]

theorem membersSameAs_refl : ∀ members : List (String × Ty), membersSameAs members members = true
  | [] => rfl
  | (_, type) :: rest => by simp [membersSameAs, sameAs_refl type, membersSameAs_refl rest]

end

instance : DecidableEq Ty := fun first second =>
  decidable_of_iff (first.sameAs second = true)
    ⟨eq_of_sameAs, fun same => same ▸ sameAs_refl first⟩

end Ty

end PromiseDetection

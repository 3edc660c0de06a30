/-!
Declarations: what the names of values and types refer to, and why a name may refer to nothing.
-/

namespace PromiseDetection

structure Site where
  node : Nat
  module : Nat
  deriving DecidableEq, Repr, Inhabited

namespace Site

def withNode (place : Site) (node : Nat) : Site := { place with node }

end Site

/-- The part of the standard library that inference knows. -/
inductive Builtin where
  | promiseConstructor
  | fetch
  /-- The type of what `fetch` resolves to. -/
  | response
  deriving DecidableEq, Repr

namespace Builtin

def name : Builtin → String
  | .promiseConstructor => "PromiseConstructor"
  | .fetch => "fetch"
  | .response => "Response"

end Builtin

inductive ImportedPart where
  | named (exported : String)
  | defaultExport
  | wholeModule
  deriving DecidableEq, Repr

/-- Names of values and names of types do not meet. -/
inductive NameSpace where
  | value
  | type
  deriving DecidableEq, Repr

inductive Declaration where
  /-- A function declaration, a signature or a function expression with a name. -/
  | function (place : Site)
  /-- A class, which is both a value and a type. -/
  | classLike (place : Site)
  /-- The declarator of a variable. -/
  | variable (place : Site)
  /-- A parameter, or the single bare parameter of an arrow function. -/
  | parameter (place : Site)
  /-- The value of a default export. -/
  | expression (place : Site)
  | interface (place : Site)
  | alias (place : Site)
  | typeParameter
  /-- Something imported; without a module where the specifier leads nowhere. -/
  | imported (module? : Option Nat) (specifier : String) (binding : ImportedPart)
  | builtin (builtin : Builtin)
  deriving DecidableEq, Repr

/-- Why inference gave up on a node. -/
inductive InferenceError where
  | noSuchValue (name : String)
  | noSuchType (name : String)
  | noSuchModule (specifier : String)
  | noSuchMember (owner member : String)
  | notCallable (description : String)
  | typeNotKnown (description : String)
  | tooDeep
  | cycle
  deriving DecidableEq, Repr

namespace InferenceError

def message : InferenceError → String
  | .noSuchValue name => "unresolved symbol '" ++ name ++ "'"
  | .noSuchType name => "unresolved type '" ++ name ++ "'"
  | .noSuchModule specifier => "unresolved import '" ++ specifier ++ "'"
  | .noSuchMember owner member => "no property '" ++ member ++ "' on " ++ owner
  | .notCallable description => description ++ " is not callable"
  | .typeNotKnown description => "type of '" ++ description ++ "' is unknown"
  | .tooDeep => "inference depth limit reached"
  | .cycle => "circular inference"

end InferenceError

end PromiseDetection

/-!
The registry of names whose calls produce promises.

An entry is a function, a method of a class or a member of an object literal. The registry keeps
its entries in the order in which they were registered, each once, together with the class that
every variable was last constructed from.
-/

namespace PromiseDetection

/-- A name whose calls may produce a promise. -/
inductive Entry where
  | function (name : String)
  | method (owner method : String)
  | member (object member : String)
  deriving DecidableEq, Repr

structure Registry where
  /-- The registered entries, first registered first. -/
  entries : List Entry
  /-- Each bound variable with the class it was last constructed from. -/
  instances : List (String × String)
  deriving DecidableEq, Repr

namespace Registry

def empty : Registry := { entries := [], instances := [] }

def contains (registry : Registry) (entry : Entry) : Bool := registry.entries.contains entry

def hasFunction (registry : Registry) (name : String) : Bool :=
  registry.contains (.function name)

def hasMethod (registry : Registry) (owner method : String) : Bool :=
  registry.contains (.method owner method)

def hasMember (registry : Registry) (object member : String) : Bool :=
  registry.contains (.member object member)

def knowsClass (registry : Registry) (owner : String) : Bool :=
  registry.entries.any fun
    | .method other _ => other == owner
    | _ => false

def classOfInstance? (registry : Registry) (name : String) : Option String :=
  registry.instances.lookup name

/-- The class that a receiver stands for: the class of that name if one of its methods is
registered, and otherwise the class the variable of that name was constructed from. -/
def classOfReceiver? (registry : Registry) (receiver : String) : Option String :=
  if registry.knowsClass receiver then some receiver else registry.classOfInstance? receiver

def register (registry : Registry) (entry : Entry) : Registry :=
  if registry.contains entry then registry
  else { registry with entries := registry.entries ++ [entry] }

/-- Binds a variable to a class. A later binding replaces an earlier one. -/
def bind (registry : Registry) (name owner : String) : Registry :=
  { registry with
    instances := (name, owner) :: registry.instances.filter fun known => known.1 ≠ name }

def size (registry : Registry) : Nat := registry.entries.length + registry.instances.length

def isEmpty (registry : Registry) : Bool := registry.size == 0

def functions (registry : Registry) : List String :=
  registry.entries.filterMap fun
    | .function name => some name
    | _ => none

def methods (registry : Registry) : List (String × String) :=
  registry.entries.filterMap fun
    | .method owner method => some (owner, method)
    | _ => none

def members (registry : Registry) : List (String × String) :=
  registry.entries.filterMap fun
    | .member object member => some (object, member)
    | _ => none

@[simp] theorem instances_register (registry : Registry) (entry : Entry) :
    (registry.register entry).instances = registry.instances := by
  unfold register
  split <;> rfl

@[simp] theorem contains_register (registry : Registry) (entry other : Entry) :
    (registry.register entry).contains other = true ↔
      registry.contains other = true ∨ other = entry := by
  unfold register
  split
  · next known =>
    refine ⟨Or.inl, fun either => ?_⟩
    rcases either with old | rfl
    · exact old
    · exact known
  · simp [contains]

/-- An entry that is registered again changes nothing, so each one is there once. -/
theorem nodup_entries_register {registry : Registry} (distinct : registry.entries.Nodup)
    (entry : Entry) : (registry.register entry).entries.Nodup := by
  unfold register
  split
  · exact distinct
  · next new =>
    refine List.nodup_append.mpr ⟨distinct, by simp, fun other old last final same => ?_⟩
    rw [List.mem_singleton] at final
    simp [contains, ← final, ← same, old] at new

theorem knowsClass_iff {registry : Registry} {owner : String} :
    registry.knowsClass owner = true ↔ ∃ method, registry.contains (.method owner method) = true := by
  simp only [knowsClass, contains, List.any_eq_true, List.contains_iff_mem]
  constructor
  · rintro ⟨entry, known, named⟩
    cases entry with
    | method other method =>
      simp only [beq_iff_eq] at named
      exact ⟨method, named ▸ known⟩
    | _ => simp at named
  · rintro ⟨method, known⟩
    exact ⟨.method owner method, known, by simp⟩

end Registry

end PromiseDetection

import Mathlib.Data.Finset.Card
import Mathlib.Data.List.Induction
import Mathlib.Data.List.Nodup
import PromiseDetection.Association
import PromiseDetection.Proofs.Registry.Foundation

/-!
The books of the registry.

The registry can be kept as maps as well: a set of functions, for each class a set of methods, for
each object a set of members, and for each variable its class. A set is made when its first name
comes in, so a class is a key of the methods exactly if one of its methods is registered. After any
steps the list and the maps give the same answers, and these can be told from the steps alone.
-/

namespace PromiseDetection

/-- Sets of names, each under a key. -/
abbrev NameSets := Std.HashMap String (Std.HashSet String)

namespace NameSets

def has (sets : NameSets) (key name : String) : Bool :=
  sets[key]?.any fun names => names.contains name

/-- Puts a name into the set under a key, which is made if there is none. Tells whether the name was
new there. -/
def put (sets : NameSets) (key name : String) : Bool × NameSets :=
  let (known, names) := (sets.getD key ∅).containsThenInsert name
  (!known, sets.insert key names)

def total (sets : NameSets) : Nat := sets.fold (fun sum _ names => sum + names.size) 0

def AllInhabited (sets : NameSets) : Prop :=
  ∀ (key : String) (names : Std.HashSet String), sets[key]? = some names → names.isEmpty = false

end NameSets

structure RegistryMaps where
  functions : Std.HashSet String
  /-- The methods of each class. -/
  methods : NameSets
  /-- The class that each variable was last constructed from. -/
  instances : Std.HashMap String String
  /-- The members of each object literal. -/
  members : NameSets

namespace RegistryMaps

def empty : RegistryMaps := { functions := ∅, methods := ∅, instances := ∅, members := ∅ }

def contains (maps : RegistryMaps) : Entry → Bool
  | .function name => maps.functions.contains name
  | .method owner method => maps.methods.has owner method
  | .member object member => maps.members.has object member

def add (maps : RegistryMaps) : Entry → Bool × RegistryMaps
  | .function name =>
    if maps.functions.contains name then (false, maps)
    else
      let (known, functions) := maps.functions.containsThenInsert name
      (!known, { maps with functions })
  | .method owner method =>
    if maps.methods.has owner method then (false, maps)
    else
      let (isNew, methods) := maps.methods.put owner method
      (isNew, { maps with methods })
  | .member object member =>
    if maps.members.has object member then (false, maps)
    else
      let (isNew, members) := maps.members.put object member
      (isNew, { maps with members })

def bind (maps : RegistryMaps) (name owner : String) : RegistryMaps :=
  { maps with instances := maps.instances.insert name owner }

def classOfReceiver? (maps : RegistryMaps) (receiver : String) : Option String :=
  if maps.methods.contains receiver then some receiver else maps.instances[receiver]?

def size (maps : RegistryMaps) : Nat :=
  maps.functions.size + maps.methods.total + maps.instances.size + maps.members.total

def isEmpty (maps : RegistryMaps) : Bool := maps.size == 0

end RegistryMaps

namespace NameSets

variable {sets : NameSets} {key other name : String}

theorem has_eq_contains_getD : sets.has key name = (sets.getD key ∅).contains name := by
  rw [has, Std.HashMap.getD_eq_getD_getElem?]
  cases sets[key]? <;> simp

theorem put_eq :
    sets.put key name = (!sets.has key name, sets.insert key ((sets.getD key ∅).insert name)) := by
  simp [put, has_eq_contains_getD]

theorem has_put {sought : String} :
    (sets.put key name).2.has other sought = true ↔
      sets.has other sought = true ∨ other = key ∧ sought = name := by
  simp only [put_eq, has_eq_contains_getD, Std.HashMap.getD_insert]
  by_cases same : key = other
  · subst same
    simp [Std.HashSet.contains_insert, or_comm, @eq_comm _ sought]
  · simp [same, Ne.symm same]

theorem AllInhabited.put (inhabited : sets.AllInhabited) (key name : String) :
    (sets.put key name).2.AllInhabited := by
  intro other names found
  rw [put_eq, Std.HashMap.getElem?_insert] at found
  split at found
  · cases found
    exact Std.HashSet.isEmpty_insert
  · exact inhabited other names found

theorem AllInhabited.contains_iff (inhabited : sets.AllInhabited) :
    sets.contains key = true ↔ ∃ name, sets.has key name = true := by
  rw [Std.HashMap.contains_eq_isSome_getElem?]
  unfold has
  cases found : sets[key]? with
  | none => simp
  | some names =>
    have written := Std.HashSet.isEmpty_eq_false_iff_exists_mem.mp (inhabited key names found)
    simpa using written

def pairs (sets : NameSets) : List (String × String) :=
  sets.toList.flatMap fun known => known.2.toList.map fun name => (known.1, name)

theorem mem_pairs_iff : (key, name) ∈ sets.pairs ↔ sets.has key name = true := by
  simp only [pairs, has, List.mem_flatMap, List.mem_map, Prod.exists, Prod.mk.injEq,
    Std.HashMap.mem_toList_iff_getElem?_eq_some, Std.HashSet.mem_toList, Option.any_eq_true,
    ← Std.HashSet.mem_iff_contains]
  constructor
  · rintro ⟨key, names, found, name, inside, rfl, rfl⟩
    exact ⟨names, found, inside⟩
  · rintro ⟨names, found, inside⟩
    exact ⟨key, names, found, name, inside, rfl, rfl⟩

theorem nodup_pairs (sets : NameSets) : sets.pairs.Nodup := by
  rw [pairs, List.nodup_flatMap]
  constructor
  · rintro ⟨key, names⟩ -
    refine List.Nodup.map (fun one other same => (Prod.mk.inj same).2) ?_
    exact Std.HashSet.distinct_toList.imp fun apart => by simpa using apart
  · refine Std.HashMap.distinct_keys_toList.imp fun apart => ?_
    simp only [Function.onFun, List.disjoint_left, List.mem_map]
    rintro - ⟨name, -, rfl⟩ ⟨other, -, same⟩
    simp [(Prod.mk.inj same).1] at apart

theorem length_pairs (sets : NameSets) : sets.pairs.length = sets.total := by
  have along (known : List (String × Std.HashSet String)) (sum : Nat) :
      known.foldl (fun sum set => sum + set.2.size) sum =
        sum + (known.flatMap fun set => set.2.toList.map fun name => (set.1, name)).length := by
    induction known generalizing sum with
    | nil => simp
    | cons set rest inductionHypothesis =>
      rw [List.foldl_cons, inductionHypothesis, List.flatMap_cons, List.length_append,
        List.length_map, Std.HashSet.length_toList, Nat.add_assoc]
  rw [total, Std.HashMap.fold_eq_foldl_toList, along, Nat.zero_add, pairs]

end NameSets

namespace RegistryMaps

variable {maps : RegistryMaps} {entry other : Entry}

theorem add_of_contains (known : maps.contains entry = true) : maps.add entry = (false, maps) := by
  cases entry <;> exact if_pos known

theorem fst_add : (maps.add entry).1 = !maps.contains entry := by
  cases known : maps.contains entry with
  | true => rw [add_of_contains known, Bool.not_true]
  | false => cases entry <;> simp_all [add, contains, NameSets.put_eq]

theorem contains_add :
    (maps.add entry).2.contains other = true ↔ maps.contains other = true ∨ other = entry := by
  cases known : maps.contains entry with
  | true =>
    rw [add_of_contains known]
    refine ⟨.inl, ?_⟩
    rintro (old | rfl)
    · exact old
    · exact known
  | false =>
    cases entry with
    | function name =>
      cases other with
      | function sought =>
        have inserted : (maps.add (.function name)).2.contains (.function sought) =
            (name == sought || maps.functions.contains sought) := by
          simp_all [add, contains, Std.HashSet.contains_insert]
        rw [inserted, Bool.or_eq_true, beq_iff_eq, or_comm, contains, Entry.function.injEq,
          @eq_comm _ name]
      | _ => simp_all [add, contains]
    | _ => cases other <;> simp_all [add, contains, NameSets.has_put]

@[simp] theorem instances_add : (maps.add entry).2.instances = maps.instances := by
  cases entry <;> simp only [add] <;> split <;> rfl

theorem methods_add (inhabited : maps.methods.AllInhabited) (entry : Entry) :
    (maps.add entry).2.methods.AllInhabited := by
  cases entry with
  | method owner method =>
    simp only [add]
    split
    · exact inhabited
    · exact inhabited.put owner method
  | _ => simp only [add]; split <;> exact inhabited

theorem members_add (inhabited : maps.members.AllInhabited) (entry : Entry) :
    (maps.add entry).2.members.AllInhabited := by
  cases entry with
  | member object member =>
    simp only [add]
    split
    · exact inhabited
    · exact inhabited.put object member
  | _ => simp only [add]; split <;> exact inhabited

@[simp] theorem contains_bind {name owner : String} :
    (maps.bind name owner).contains entry = maps.contains entry := by
  cases entry <;> rfl

def entries (maps : RegistryMaps) : List Entry :=
  maps.functions.toList.map .function ++
    (maps.methods.pairs.map fun known => .method known.1 known.2) ++
    maps.members.pairs.map fun known => .member known.1 known.2

theorem mem_entries_iff : entry ∈ maps.entries ↔ maps.contains entry = true := by
  cases entry <;> simp [entries, contains, NameSets.mem_pairs_iff]

theorem nodup_entries (maps : RegistryMaps) : maps.entries.Nodup := by
  have functions : (maps.functions.toList.map Entry.function).Nodup :=
    List.Nodup.map (fun _ _ same => Entry.function.inj same)
      (Std.HashSet.distinct_toList.imp fun apart => by simpa using apart)
  have methods : (maps.methods.pairs.map fun known => Entry.method known.1 known.2).Nodup :=
    List.Nodup.map (fun _ _ same => Prod.ext_iff.mpr (Entry.method.inj same))
      maps.methods.nodup_pairs
  have members : (maps.members.pairs.map fun known => Entry.member known.1 known.2).Nodup :=
    List.Nodup.map (fun _ _ same => Prod.ext_iff.mpr (Entry.member.inj same))
      maps.members.nodup_pairs
  refine List.Nodup.append (List.Nodup.append functions methods ?_) members ?_
  all_goals
    rw [List.disjoint_left]
    intro entry
    cases entry <;> simp

theorem size_eq_length_entries (maps : RegistryMaps) :
    maps.size = maps.entries.length + maps.instances.keys.length := by
  simp only [size, entries, List.length_append, List.length_map, Std.HashSet.length_toList,
    NameSets.length_pairs, Std.HashMap.length_keys]
  omega

end RegistryMaps

inductive RegistryStep where
  | added (entry : Entry)
  | bound (name owner : String)
  deriving DecidableEq

namespace RegistryStep

def entry? : RegistryStep → Option Entry
  | .added entry => some entry
  | .bound .. => none

def name? : RegistryStep → Option String
  | .added _ => none
  | .bound name _ => some name

def owner? (name : String) : RegistryStep → Option String
  | .added _ => none
  | .bound other owner => if other = name then some owner else none

end RegistryStep

def addedEntries (steps : List RegistryStep) : List Entry :=
  steps.filterMap RegistryStep.entry?

def boundNames (steps : List RegistryStep) : List String :=
  steps.filterMap RegistryStep.name?

def boundOwners (steps : List RegistryStep) (name : String) : List String :=
  steps.filterMap (RegistryStep.owner? name)

section Steps

variable {steps : List RegistryStep} {entry : Entry} {name owner sought : String}

theorem mem_addedEntries_iff : entry ∈ addedEntries steps ↔ .added entry ∈ steps := by
  rw [addedEntries, List.mem_filterMap]
  constructor
  · rintro ⟨step, taken, adds⟩
    cases step with
    | added => exact Option.some.inj adds ▸ taken
    | bound => cases adds
  · intro taken
    exact ⟨.added entry, taken, rfl⟩

@[simp] theorem boundOwners_added :
    boundOwners (steps ++ [.added entry]) name = boundOwners steps name := by
  simp [boundOwners, RegistryStep.owner?]

theorem getLast?_boundOwners_bound :
    (boundOwners (steps ++ [.bound name owner]) sought).getLast? =
      if name = sought then some owner else (boundOwners steps sought).getLast? := by
  rw [boundOwners, List.filterMap_append, ← boundOwners]
  by_cases same : name = sought <;> simp [RegistryStep.owner?, same]

theorem mem_boundNames_iff : name ∈ boundNames steps ↔ boundOwners steps name ≠ [] := by
  rw [boundNames, boundOwners, Ne, List.filterMap_eq_nil_iff, not_forall₂, List.mem_filterMap]
  refine exists_congr fun step => ?_
  cases step with
  | added => simp [RegistryStep.name?, RegistryStep.owner?]
  | bound other owner => simp [RegistryStep.name?, RegistryStep.owner?]

/-- What holds at first, and is kept by each step once this is counted among those taken, holds
after any steps. The induction takes the last step away. -/
theorem holds_after {State : Type} {start : State} {next : State → RegistryStep → State}
    {holds : State → List RegistryStep → Prop} (initially : holds start [])
    (onward : ∀ state steps step, holds state steps → holds (next state step) (steps ++ [step]))
    (steps : List RegistryStep) : holds (steps.foldl next start) steps := by
  induction steps using List.reverseRecOn with
  | nil => exact initially
  | append_singleton steps step inductionHypothesis =>
    rw [List.foldl_append]
    exact onward _ _ step inductionHypothesis

end Steps

namespace RegistryMaps

def next (maps : RegistryMaps) : RegistryStep → RegistryMaps
  | .added entry => (maps.add entry).2
  | .bound name owner => maps.bind name owner

def after (steps : List RegistryStep) : RegistryMaps := steps.foldl next empty

/-- The maps hold what the steps brought in, and no set without names. -/
structure Records (maps : RegistryMaps) (steps : List RegistryStep) : Prop where
  contains_iff (entry : Entry) : maps.contains entry = true ↔ .added entry ∈ steps
  instance_eq (name : String) : maps.instances[name]? = (boundOwners steps name).getLast?
  methods_inhabited : maps.methods.AllInhabited
  members_inhabited : maps.members.AllInhabited

theorem records_empty : empty.Records [] where
  contains_iff entry := by cases entry <;> simp [empty, contains, NameSets.has]
  instance_eq name := by simp [empty, boundOwners]
  methods_inhabited key names found := by simp [empty] at found
  members_inhabited key names found := by simp [empty] at found

theorem Records.next {maps : RegistryMaps} {steps : List RegistryStep}
    (records : maps.Records steps) (step : RegistryStep) :
    (maps.next step).Records (steps ++ [step]) := by
  cases step with
  | added entry =>
    exact {
      contains_iff other := by
        rw [RegistryMaps.next, contains_add, records.contains_iff]
        simp
      instance_eq name := by
        rw [RegistryMaps.next, instances_add, records.instance_eq, boundOwners_added]
      methods_inhabited := methods_add records.methods_inhabited entry
      members_inhabited := members_add records.members_inhabited entry }
  | bound name owner =>
    exact {
      contains_iff entry := by
        rw [RegistryMaps.next, contains_bind, records.contains_iff]
        simp
      instance_eq sought := by
        rw [getLast?_boundOwners_bound, ← records.instance_eq, RegistryMaps.next, bind,
          Std.HashMap.getElem?_insert]
        simp
      methods_inhabited := records.methods_inhabited
      members_inhabited := records.members_inhabited }

theorem records_after (steps : List RegistryStep) : (after steps).Records steps :=
  holds_after records_empty (fun _ _ step records => records.next step) steps

end RegistryMaps

namespace Registry

def next (registry : Registry) : RegistryStep → Registry
  | .added entry => registry.register entry
  | .bound name owner => registry.bind name owner

def after (steps : List RegistryStep) : Registry := steps.foldl next .empty

structure Records (registry : Registry) (steps : List RegistryStep) : Prop where
  contains_iff (entry : Entry) : registry.contains entry = true ↔ .added entry ∈ steps
  instance_eq (name : String) :
    registry.classOfInstance? name = (boundOwners steps name).getLast?
  distinct_entries : registry.entries.Nodup
  distinct_names : (registry.instances.map Prod.fst).Nodup

theorem classOfInstance?_bind (registry : Registry) (name owner sought : String) :
    (registry.bind name owner).classOfInstance? sought =
      if name = sought then some owner else registry.classOfInstance? sought := by
  rw [classOfInstance?, bind, Association.lookup_replaced]
  simp only [classOfInstance?, eq_comm]

@[simp] theorem contains_bind (registry : Registry) (name owner : String) (entry : Entry) :
    (registry.bind name owner).contains entry = registry.contains entry := rfl

theorem nodup_names_bind {registry : Registry}
    (distinct : (registry.instances.map Prod.fst).Nodup) (name owner : String) :
    ((registry.bind name owner).instances.map Prod.fst).Nodup := by
  rw [bind, List.map_cons, List.nodup_cons]
  constructor
  · simp
  · exact distinct.sublist (List.filter_sublist.map Prod.fst)

theorem records_empty : empty.Records [] where
  contains_iff entry := by simp [empty, contains]
  instance_eq name := by simp [empty, classOfInstance?, boundOwners]
  distinct_entries := List.nodup_nil
  distinct_names := List.nodup_nil

theorem Records.next {registry : Registry} {steps : List RegistryStep}
    (records : registry.Records steps) (step : RegistryStep) :
    (registry.next step).Records (steps ++ [step]) := by
  cases step with
  | added entry =>
    exact {
      contains_iff other := by
        rw [Registry.next, contains_register, records.contains_iff]
        simp
      instance_eq name := by
        rw [boundOwners_added, ← records.instance_eq, Registry.next, classOfInstance?,
          instances_register, classOfInstance?]
      distinct_entries := nodup_entries_register records.distinct_entries entry
      distinct_names := by
        rw [Registry.next, instances_register]
        exact records.distinct_names }
  | bound name owner =>
    exact {
      contains_iff entry := by
        rw [Registry.next, contains_bind, records.contains_iff]
        simp
      instance_eq sought := by
        rw [getLast?_boundOwners_bound, ← records.instance_eq, Registry.next,
          classOfInstance?_bind]
      distinct_entries := records.distinct_entries
      distinct_names := nodup_names_bind records.distinct_names name owner }

theorem records_after (steps : List RegistryStep) : (after steps).Records steps :=
  holds_after records_empty (fun _ _ step records => records.next step) steps

end Registry

/-- How many different entries were added and how many different variables were bound. -/
def distinctNames (steps : List RegistryStep) : Nat :=
  (addedEntries steps).toFinset.card + (boundNames steps).toFinset.card

theorem distinctNames_eq_zero_iff {steps : List RegistryStep} :
    distinctNames steps = 0 ↔ steps = [] := by
  cases steps with
  | nil => simp [distinctNames, addedEntries, boundNames]
  | cons step rest =>
    cases step <;>
      simp [distinctNames, addedEntries, boundNames, RegistryStep.entry?, RegistryStep.name?]

/-- Lists that hold each entry and each variable once are as long together as there are names. -/
theorem length_add_length_eq_distinctNames {steps : List RegistryStep} {entries : List Entry}
    {names : List String} (entriesOnce : entries.Nodup)
    (sameEntries : ∀ entry, entry ∈ entries ↔ entry ∈ addedEntries steps)
    (namesOnce : names.Nodup) (sameNames : ∀ name, name ∈ names ↔ name ∈ boundNames steps) :
    entries.length + names.length = distinctNames steps := by
  have ofEntries : entries.toFinset = (addedEntries steps).toFinset := by
    ext entry
    rw [List.mem_toFinset, List.mem_toFinset, sameEntries]
  have ofNames : names.toFinset = (boundNames steps).toFinset := by
    ext name
    rw [List.mem_toFinset, List.mem_toFinset, sameNames]
  rw [distinctNames, ← ofEntries, ← ofNames, List.toFinset_card_of_nodup entriesOnce,
    List.toFinset_card_of_nodup namesOnce]

theorem RegistryMaps.Records.size_eq {maps : RegistryMaps} {steps : List RegistryStep}
    (records : maps.Records steps) : maps.size = distinctNames steps := by
  rw [size_eq_length_entries]
  refine length_add_length_eq_distinctNames maps.nodup_entries (fun entry => ?_)
    Std.HashMap.nodup_keys fun name => ?_
  · rw [mem_entries_iff, records.contains_iff, mem_addedEntries_iff]
  · rw [Std.HashMap.mem_keys, Std.HashMap.mem_iff_isSome_getElem?, records.instance_eq,
      mem_boundNames_iff, List.getLast?_isSome]

theorem Registry.Records.size_eq {registry : Registry} {steps : List RegistryStep}
    (records : registry.Records steps) : registry.size = distinctNames steps := by
  have lengths : registry.size =
      registry.entries.length + (registry.instances.map Prod.fst).length := by
    rw [size, List.length_map]
  rw [lengths]
  refine length_add_length_eq_distinctNames records.distinct_entries (fun entry => ?_)
    records.distinct_names fun name => ?_
  · rw [mem_addedEntries_iff, ← records.contains_iff, contains, List.contains_iff_mem]
  · rw [mem_boundNames_iff, ← List.getLast?_isSome, ← records.instance_eq, classOfInstance?,
      List.lookup_isSome_iff, List.mem_map]
    simp only [beq_iff_eq, @eq_comm _ name]

/-- The list gives the same answers as the maps. -/
structure Registry.AnswersAs (registry : Registry) (maps : RegistryMaps) : Prop where
  contains_eq (entry : Entry) : registry.contains entry = maps.contains entry
  isNew_eq (entry : Entry) : (!registry.contains entry) = (maps.add entry).1
  knowsClass_eq (owner : String) : registry.knowsClass owner = maps.methods.contains owner
  instance_eq (name : String) : registry.classOfInstance? name = maps.instances[name]?
  receiver_eq (receiver : String) :
    registry.classOfReceiver? receiver = maps.classOfReceiver? receiver
  size_eq : registry.size = maps.size
  isEmpty_eq : registry.isEmpty = maps.isEmpty

theorem RegistryMaps.Records.methods_contains_iff {maps : RegistryMaps}
    {steps : List RegistryStep} (records : maps.Records steps) (owner : String) :
    maps.methods.contains owner = true ↔ ∃ method, .added (.method owner method) ∈ steps := by
  rw [records.methods_inhabited.contains_iff]
  exact exists_congr fun method => records.contains_iff (.method owner method)

theorem Registry.Records.answersAs {registry : Registry} {maps : RegistryMaps}
    {steps : List RegistryStep} (listed : registry.Records steps) (mapped : maps.Records steps) :
    registry.AnswersAs maps := by
  have entries (entry : Entry) : registry.contains entry = maps.contains entry := by
    rw [Bool.eq_iff_iff, listed.contains_iff, mapped.contains_iff]
  have classes (owner : String) : registry.knowsClass owner = maps.methods.contains owner := by
    rw [Bool.eq_iff_iff, knowsClass_iff, mapped.methods_contains_iff]
    exact exists_congr fun method => listed.contains_iff (.method owner method)
  have instances (name : String) : registry.classOfInstance? name = maps.instances[name]? := by
    rw [listed.instance_eq, mapped.instance_eq]
  have sizes : registry.size = maps.size := by
    rw [listed.size_eq, mapped.size_eq]
  exact {
    contains_eq := entries
    isNew_eq entry := by rw [entries, RegistryMaps.fst_add]
    knowsClass_eq := classes
    instance_eq := instances
    receiver_eq receiver := by
      rw [classOfReceiver?, classes, instances, RegistryMaps.classOfReceiver?]
    size_eq := sizes
    isEmpty_eq := by rw [isEmpty, sizes, RegistryMaps.isEmpty] }

/-- The maps, told from the steps that filled them. -/
structure RegistryMaps.KeepsBooks (maps : RegistryMaps) (steps : List RegistryStep) : Prop where
  /-- One more addition answers that the entry is new if no step has added it. -/
  add_iff (entry : Entry) : (maps.add entry).1 = true ↔ .added entry ∉ steps
  function_iff (name : String) :
    maps.functions.contains name = true ↔ .added (.function name) ∈ steps
  method_iff (owner method : String) :
    maps.methods.has owner method = true ↔ .added (.method owner method) ∈ steps
  member_iff (object member : String) :
    maps.members.has object member = true ↔ .added (.member object member) ∈ steps
  /-- A variable has the class that it was bound to last. -/
  instance_eq (name : String) : maps.instances[name]? = (boundOwners steps name).getLast?
  methods_inhabited : maps.methods.AllInhabited
  members_inhabited : maps.members.AllInhabited
  methods_contains_iff (owner : String) :
    maps.methods.contains owner = true ↔ ∃ method, .added (.method owner method) ∈ steps
  /-- A receiver is a class itself before it is an instance of one. -/
  receiver_self (receiver method : String) :
    .added (.method receiver method) ∈ steps → maps.classOfReceiver? receiver = some receiver
  receiver_instance (receiver : String) : (∀ method, .added (.method receiver method) ∉ steps) →
    maps.classOfReceiver? receiver = maps.instances[receiver]?
  size_eq : maps.size = distinctNames steps
  isEmpty_iff : maps.isEmpty = true ↔ maps.size = 0
  size_eq_zero_iff : maps.size = 0 ↔ steps = []

theorem RegistryMaps.Records.keepsBooks {maps : RegistryMaps} {steps : List RegistryStep}
    (records : maps.Records steps) : maps.KeepsBooks steps := by
  have classes := records.methods_contains_iff
  exact {
    add_iff entry := by
      rw [fst_add, ← records.contains_iff, Bool.not_eq_true', Bool.not_eq_true]
    function_iff name := records.contains_iff (.function name)
    method_iff owner method := records.contains_iff (.method owner method)
    member_iff object member := records.contains_iff (.member object member)
    instance_eq := records.instance_eq
    methods_inhabited := records.methods_inhabited
    members_inhabited := records.members_inhabited
    methods_contains_iff := classes
    receiver_self receiver method added := if_pos ((classes receiver).mpr ⟨method, added⟩)
    receiver_instance receiver unadded := by
      refine if_neg fun key => ?_
      obtain ⟨method, added⟩ := (classes receiver).mp key
      exact unadded method added
    size_eq := records.size_eq
    isEmpty_iff := by rw [isEmpty, beq_iff_eq]
    size_eq_zero_iff := by rw [records.size_eq, distinctNames_eq_zero_iff] }

/-- **The books of the registry.** Whatever steps have filled empty maps, an addition after them
answers that the entry is new exactly if it was not added before, exactly the added entries are
found, a variable has the class it was bound to last, no set is empty, so that the classes with a
key are those with an added method, and the size counts the different entries and variables. The
list gives the same answers. -/
theorem RegistryMaps.keepsBooks_after (steps : List RegistryStep) :
    (after steps).KeepsBooks steps ∧ (Registry.after steps).AnswersAs (after steps) :=
  ⟨(records_after steps).keepsBooks,
    (Registry.records_after steps).answersAs (records_after steps)⟩

/-- A class of the name of a variable hides the class that the variable was bound to. -/
example :
    let steps := [.bound "repo" "Repo", .added (.method "repo" "find")]
    (Registry.after steps).classOfReceiver? "repo" = some "repo" := by
  decide

namespace Document

variable {document : Document} {definitions : List Definition} {registry : Registry}

theorem Reaches.exists_steps {visited : List Nat}
    (reached : document.Reaches definitions (document.instancesOf visited) registry) :
    ∃ steps, registry = .after steps := by
  induction reached with
  | refl =>
    refine ⟨(visited.filterMap document.instanceBinding?).map fun binding =>
      .bound binding.1 binding.2, ?_⟩
    rw [Registry.after, List.foldl_map]
    rfl
  | tail _ step inductionHypothesis =>
    obtain ⟨definition, -, -, -, rfl⟩ := step.exists_definition
    obtain ⟨steps, rfl⟩ := inductionHypothesis
    exact ⟨steps ++ [.added definition.target], by simp [Registry.after, Registry.next]⟩

/-- The registry that is collected can be kept as maps: some steps fill both, and from these steps
all answers can be told. -/
theorem collectRegistry_answersAs (document : Document) :
    ∃ registry steps, document.collectRegistry.under .lowered = .ok registry ∧
      registry.AnswersAs (.after steps) ∧ (RegistryMaps.after steps).KeepsBooks steps := by
  obtain ⟨registry, collected, reached⟩ := document.exists_collectRegistry
  obtain ⟨steps, rfl⟩ := Reaches.exists_steps reached
  have mapped := RegistryMaps.records_after steps
  exact ⟨.after steps, steps, collected, (Registry.records_after steps).answersAs mapped,
    mapped.keepsBooks⟩

end Document

end PromiseDetection

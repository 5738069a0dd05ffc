import EntityQuery.Proofs.Schema.Registered
import Mathlib.Data.List.Induction
import Std.Data.HashMap.Lemmas

/-!
# Calls on a registry

Entities are registered by calls one after the other.  A call under a name that is taken fails, and
the calls after it find the registry as it was.  So a registry holds what came first under each
name, in the order in which it came.

A registry can be kept with an index: a table that leads from names to entities, beside the names in
order.  The size and the lookups are then read off the table alone, and the list of entities off
both.  Calls keep the two in step, so an indexed registry shows what the plain one shows.
-/

namespace EntityQuery

namespace Registry

/-- Register an entity.  A registry that has its name already stays as it is. -/
def call (registry : Registry) (entity : Entity) : Registry × Except Error Entity :=
  match registry.register entity with
  | .ok registered => (registered, .ok entity)
  | .error error => (registry, .error error)

/-- Calls one after the other, each on what the calls before it left: what the last one leaves, and
what each of them gave. -/
def inTurn {State : Type} (call : State → Entity → State × Except Error Entity) (start : State)
    (given : List Entity) : State × List (Except Error Entity) :=
  given.foldl (fun (state, outcomes) entity =>
    let (next, outcome) := call state entity
    (next, outcomes ++ [outcome])) (start, [])

theorem inTurn_concat {State : Type} (call : State → Entity → State × Except Error Entity)
    (start : State) (given : List Entity) (entity : Entity) :
    inTurn call start (given ++ [entity]) =
      ((call (inTurn call start given).1 entity).1,
        (inTurn call start given).2 ++ [(call (inTurn call start given).1 entity).2]) :=
  List.foldl_concat ..

/-- What came first under a name. -/
def first? (given : List Entity) (name : String) : Option Entity :=
  given.find? fun entity => entity.name == name

theorem first?_concat_of_taken {given : List Entity} {entity : Entity}
    (taken : entity.name ∈ given.map Entity.name) (name : String) :
    first? (given ++ [entity]) name = first? given name := by
  rw [first?, List.find?_append, List.find?_singleton, ← first?]
  by_cases own : entity.name = name
  · obtain ⟨found, first⟩ : ∃ found, first? given name = some found := by
      obtain ⟨earlier, member, named⟩ := List.mem_map.1 taken
      refine Option.ne_none_iff_exists'.1 fun missing => ?_
      exact List.find?_eq_none.1 missing earlier member (beq_iff_eq.2 (named.trans own))
    rw [first, Option.some_or]
  · rw [if_neg (mt beq_iff_eq.1 own), Option.or_none]

variable {registry : Registry} {entity : Entity}

theorem call_of_taken (taken : entity.name ∈ registry.entities.map Entity.name) :
    registry.call entity = (registry, .error (.config (.duplicateEntity entity.name))) := by
  rw [call, register_eq, if_pos taken]

theorem call_of_fresh (fresh : entity.name ∉ registry.entities.map Entity.name) :
    registry.call entity = (⟨registry.entities ++ [entity]⟩, .ok entity) := by
  rw [call, register_eq, if_neg fresh]

/-- A new entity is found under its name, and any other as before. -/
theorem find?_concat_of_fresh (fresh : entity.name ∉ registry.entities.map Entity.name)
    (name : String) :
    find? ⟨registry.entities ++ [entity]⟩ name =
      if entity.name == name then some entity else registry.find? name := by
  rw [find?, List.find?_append, List.find?_singleton]
  split_ifs with own
  · rw [← find?, ← beq_iff_eq.1 own, find?_eq_none.2 fresh, Option.none_or]
  · rw [Option.or_none, ← find?]

/-- A registry holds the entities that calls gave, and what came first under each name. -/
structure Records (given : List Entity) (reached : Registry × List (Except Error Entity)) :
    Prop where
  entities : reached.1.entities = reached.2.filterMap Except.toOption
  distinct : (reached.1.entities.map Entity.name).Nodup
  find? : ∀ name, reached.1.find? name = first? given name

namespace Records

variable {given : List Entity} {outcomes : List (Except Error Entity)}

/-- A name is taken exactly if there was a call under it: the first such call did not fail. -/
theorem mem_names (records : Records given (registry, outcomes)) {name : String} :
    name ∈ registry.entities.map Entity.name ↔ name ∈ given.map Entity.name := by
  have missing : registry.find? name = none ↔ name ∉ given.map Entity.name := by
    rw [records.find? name, first?, List.find?_eq_none]
    simp
  exact not_iff_not.1 (find?_eq_none.symm.trans missing)

/-- One more call keeps the record. -/
theorem call (records : Records given (registry, outcomes)) (entity : Entity) :
    Records (given ++ [entity])
      ((registry.call entity).1, outcomes ++ [(registry.call entity).2]) := by
  by_cases taken : entity.name ∈ given.map Entity.name
  · rw [call_of_taken (records.mem_names.2 taken)]
    constructor
    case entities =>
      rw [List.filterMap_append, ← records.entities]
      exact (List.append_nil registry.entities).symm
    case distinct => exact records.distinct
    case find? =>
      intro name
      exact (records.find? name).trans (first?_concat_of_taken taken name).symm
  · have fresh := mt records.mem_names.1 taken
    rw [call_of_fresh fresh]
    constructor
    case entities =>
      rw [List.filterMap_append, ← records.entities]
      rfl
    case distinct =>
      rw [List.map_append, List.map_singleton, ← List.concat_eq_append]
      exact records.distinct.concat fresh
    case find? =>
      intro name
      change first? (registry.entities ++ [entity]) name = first? (given ++ [entity]) name
      rw [first?, first?, List.find?_append, List.find?_append]
      exact congrArg (Option.or · _) (records.find? name)

end Records

-- From the back: a call is judged by the registry that the calls before it left.
theorem records_inTurn (given : List Entity) : Records given (inTurn call empty given) := by
  induction given using List.reverseRecOn with
  | nil => exact ⟨rfl, List.nodup_nil, fun _ => rfl⟩
  | append_singleton before entity ih =>
      rw [inTurn_concat]
      exact ih.call entity

end Registry

/-- A registry with an index: its entities by their names, and the names in order. -/
structure IndexedRegistry where
  byName : Std.HashMap String Entity
  order : List String

namespace IndexedRegistry

def empty : IndexedRegistry := ⟨∅, []⟩

def size (indexed : IndexedRegistry) : Nat := indexed.byName.size

def find? (indexed : IndexedRegistry) (name : String) : Option Entity := indexed.byName[name]?

def entities (indexed : IndexedRegistry) : List Entity := indexed.order.filterMap indexed.find?

/-- Register an entity, in the table and in the order, if its name is new. -/
def call (indexed : IndexedRegistry) (entity : Entity) : IndexedRegistry × Except Error Entity :=
  if indexed.byName.contains entity.name then
    (indexed, .error (.config (.duplicateEntity entity.name)))
  else
    (⟨indexed.byName.insert entity.name entity, indexed.order ++ [entity.name]⟩, .ok entity)

/-- The table and the order are in step with a registry. -/
structure Keeps (indexed : IndexedRegistry) (registry : Registry) : Prop where
  order : indexed.order = registry.entities.map Entity.name
  size : indexed.size = registry.size
  find? : ∀ name, indexed.find? name = registry.find? name

namespace Keeps

variable {indexed : IndexedRegistry} {registry : Registry} {entity : Entity}

theorem contains_iff (keeps : Keeps indexed registry) {name : String} :
    indexed.byName.contains name = true ↔ name ∈ registry.entities.map Entity.name := by
  rw [← not_iff_not, ← Registry.find?_eq_none, ← keeps.find? name]
  simp [IndexedRegistry.find?]

/-- Under distinct names the order leads through the table to the entities. -/
theorem entities (keeps : Keeps indexed registry)
    (distinct : (registry.entities.map Entity.name).Nodup) :
    indexed.entities = registry.entities := by
  rw [IndexedRegistry.entities, keeps.order, List.filterMap_map]
  refine (List.filterMap_congr fun entity member => ?_).trans List.filterMap_some
  exact (keeps.find? entity.name).trans (Registry.find?_of_mem distinct member)

theorem call_of_taken (keeps : Keeps indexed registry)
    (taken : entity.name ∈ registry.entities.map Entity.name) :
    indexed.call entity = (indexed, .error (.config (.duplicateEntity entity.name))) :=
  if_pos (keeps.contains_iff.2 taken)

/-- One more call gives the same and keeps the two in step. -/
theorem call (keeps : Keeps indexed registry) (entity : Entity) :
    Keeps (indexed.call entity).1 (registry.call entity).1 ∧
      (indexed.call entity).2 = (registry.call entity).2 := by
  by_cases taken : entity.name ∈ registry.entities.map Entity.name
  · rw [keeps.call_of_taken taken, Registry.call_of_taken taken]
    exact ⟨keeps, rfl⟩
  · have absent := mt keeps.contains_iff.1 taken
    rw [IndexedRegistry.call, if_neg absent, Registry.call_of_fresh taken]
    refine ⟨?_, rfl⟩
    constructor
    case order =>
      rw [List.map_append, ← keeps.order]
      rfl
    case size =>
      have fresh : entity.name ∉ indexed.byName := mt Std.HashMap.mem_iff_contains.1 absent
      rw [IndexedRegistry.size, Std.HashMap.size_insert, if_neg fresh, Registry.size,
        List.length_append]
      exact congrArg (· + 1) keeps.size
    case find? =>
      intro name
      rw [Registry.find?_concat_of_fresh taken, ← keeps.find? name]
      exact Std.HashMap.getElem?_insert

end Keeps

theorem keeps_inTurn (given : List Entity) :
    Keeps (Registry.inTurn call empty given).1 (Registry.inTurn Registry.call .empty given).1 ∧
      (Registry.inTurn call empty given).2 = (Registry.inTurn Registry.call .empty given).2 := by
  induction given using List.reverseRecOn with
  | nil => exact ⟨⟨rfl, rfl, fun _ => Std.HashMap.getElem?_empty⟩, rfl⟩
  | append_singleton before entity ih =>
      obtain ⟨keeps, same⟩ := ih
      obtain ⟨kept, gave⟩ := keeps.call entity
      rw [Registry.inTurn_concat, Registry.inTurn_concat]
      exact ⟨kept, congrArg₂ (· ++ [·]) same gave⟩

end IndexedRegistry

namespace Registry

/-- After any calls on a new registry, failed ones among them, its entities are those that the calls
gave, each once and in the order of the calls, and its size is their number; a name leads to what
came under it first, if anything did.  One more call fails exactly if there was one under its name,
and then changes nothing.  With an index, the calls give and leave the same. -/
theorem records_of_calls (given : List Entity) :
    let (registry, outcomes) := inTurn call empty given
    let (indexed, answers) := inTurn IndexedRegistry.call .empty given
    registry.entities = outcomes.filterMap Except.toOption ∧
      (registry.entities.map Entity.name).Nodup ∧
      registry.size = registry.entities.length ∧
      (∀ name, registry.find? name = given.find? fun entity => entity.name == name) ∧
      (∀ entity, entity.name ∈ given.map Entity.name →
        registry.call entity = (registry, .error (.config (.duplicateEntity entity.name))) ∧
          indexed.call entity = (indexed, .error (.config (.duplicateEntity entity.name)))) ∧
      (∀ entity, entity.name ∉ given.map Entity.name →
        registry.call entity = (⟨registry.entities ++ [entity]⟩, .ok entity)) ∧
      answers = outcomes ∧
      indexed.entities = registry.entities ∧
      indexed.size = registry.size ∧
      ∀ name, indexed.find? name = registry.find? name := by
  have records := records_inTurn given
  obtain ⟨keeps, same⟩ := IndexedRegistry.keeps_inTurn given
  refine ⟨records.entities, records.distinct, rfl, records.find?, ?_, ?_, same,
    keeps.entities records.distinct, keeps.size, keeps.find?⟩
  · intro entity came
    have taken := records.mem_names.2 came
    exact ⟨call_of_taken taken, keeps.call_of_taken taken⟩
  · intro entity new
    exact call_of_fresh (mt records.mem_names.1 new)

end Registry

namespace Sample

def person : Entity := ⟨0, "Person", none, none, .identity, []⟩

def group : Entity := ⟨1, "Group", none, none, .identity, []⟩

/-- Another entity under the name of persons. -/
def namesake : Entity := ⟨2, "Person", none, none, .identity, []⟩

end Sample

/-- When the name of persons comes again they stay what they were, with an index and without. -/
theorem Registry.records_of_calls_of_namesake :
    let given := [Sample.person, Sample.group, Sample.namesake]
    let (registry, outcomes) := inTurn call empty given
    let (indexed, answers) := inTurn IndexedRegistry.call .empty given
    outcomes = [.ok Sample.person, .ok Sample.group,
        .error (.config (.duplicateEntity "Person"))] ∧
      answers = outcomes ∧
      registry.entities = [Sample.person, Sample.group] ∧
      indexed.entities = [Sample.person, Sample.group] ∧
      indexed.size = 2 ∧
      registry.find? "Person" = some Sample.person ∧
      indexed.find? "Person" = some Sample.person ∧
      registry.call Sample.namesake =
        (registry, .error (.config (.duplicateEntity "Person"))) := by
  obtain ⟨listed, -, -, found, taken, -, same, indexed, size, looked⟩ :=
    Registry.records_of_calls [Sample.person, Sample.group, Sample.namesake]
  have person := found "Person"
  exact ⟨rfl, same, listed, indexed.trans listed, size, person, (looked "Person").trans person,
    (taken Sample.namesake (by decide)).1⟩

end EntityQuery

import EntityQuery.Proofs.Entity.Names

/-!
# Entities of a schema

Building a schema registers its entities one by one.  A step adds one entity under its written name,
which must be new, and finds its parent among the entities before it.  So the entities stand in the
order in which they are written, and what is checked of the references between them holds of names
that stand for one entity each.
-/

namespace EntityQuery

open Outcome

namespace Schema

/-- What one step does: an entity is registered after the others, with its parent among them. -/
structure Adds (registry : Registry) (written : WrittenEntity) (entity : Entity)
    (registered : Registry) : Prop where
  entities : registered.entities = registry.entities ++ [entity]
  named : entity.name = written.name
  fresh : written.name ∉ registry.entities.map Entity.name
  parent : ∀ parent ∈ written.parent, parent ∈ registry.entities.map Entity.name

end Schema

namespace Registry

variable {registry : Registry} {name : String} {entity : Entity}

theorem mem_of_find? (found : registry.find? name = some entity) :
    entity ∈ registry.entities ∧ entity.name = name :=
  ⟨List.mem_of_find?_eq_some found, by simpa using List.find?_some found⟩

/-- With distinct names, an entity is found under its name. -/
theorem find?_of_mem (distinct : (registry.entities.map Entity.name).Nodup)
    (member : entity ∈ registry.entities) : registry.find? entity.name = some entity := by
  cases found : registry.find? entity.name with
  | none => exact absurd (List.mem_map_of_mem member) (find?_eq_none.1 found)
  | some other =>
      obtain ⟨otherMember, named⟩ := mem_of_find? found
      exact congrArg some (List.inj_on_of_nodup_map distinct otherMember member named)

end Registry

/-- Every reference names a registered entity and one of its fields. -/
def Registry.Resolves (registry : Registry) : Prop :=
  ∀ entity ∈ registry.entities, ∀ field ∈ entity.fields, ∀ reference ∈ field.reference,
    ∃ target, registry.find? reference.entity = some target ∧
      reference.field ∈ target.fieldNames

theorem Registry.resolves_of_checkReferences {registry : Registry}
    (checked : registry.checkReferences = .ok ()) : registry.Resolves := by
  intro entity member field fieldMember reference held
  unfold checkReferences at checked
  split at checked
  case h_1 => exact nomatch checked
  case h_2 faultless =>
      have sound := List.findSome?_eq_none_iff.1
        (List.findSome?_eq_none_iff.1 faultless entity member) field fieldMember
      rw [fieldError?, held, Option.bind_some, Option.map_eq_none_iff] at sound
      unfold referenceFault? at sound
      split at sound
      case h_1 => exact nomatch sound
      case h_2 target found =>
          split_ifs at sound with known
          exact ⟨target, found, Entity.hasField_iff.1 known⟩

namespace Schema

variable {registry registered : Registry} {written : WrittenEntity}

theorem name_foldl_addField (declaration : EntityDeclaration) (fields : List FieldDeclaration) :
    (fields.foldl EntityDeclaration.addField declaration).name = declaration.name := by
  induction fields generalizing declaration with
  | nil => rfl
  | cons field rest ih => exact ih (declaration.addField field)

theorem of_start {start : EntityDeclaration} (started : written.start registry = .ok start) :
    start.name = written.name ∧
      ∀ parent ∈ written.parent, parent ∈ registry.entities.map Entity.name := by
  unfold WrittenEntity.start at started
  cases extended : written.parent with
  | none =>
      rw [extended] at started
      rw [← Except.ok.inj started]
      exact ⟨rfl, nofun⟩
  | some parent =>
      rw [extended] at started
      dsimp only at started
      split at started
      case h_1 entity found =>
          rw [← Except.ok.inj started]
          obtain ⟨member, named⟩ := Registry.mem_of_find? found
          refine ⟨rfl, ?_⟩
          rintro _ ⟨⟩
          exact List.mem_map.2 ⟨entity, member, named⟩
      case h_2 => exact nomatch started

theorem of_declaration {declaration : EntityDeclaration}
    (declared : written.declaration registry = .ok declaration) :
    declaration.name = written.name ∧
      ∀ parent ∈ written.parent, parent ∈ registry.entities.map Entity.name := by
  obtain ⟨start, started, rest⟩ := bind_eq_ok.1 declared
  obtain ⟨named, parent⟩ := of_start started
  refine ⟨?_, parent⟩
  have given (naming : NamingStrategy) : Yields (fun declaration => declaration.name = written.name)
      (do
        let fields ← written.fields.mapM (·.declaration written.name)
        return fields.foldl EntityDeclaration.addField { start with
          table := written.table.or start.table
          schema := written.schema.or start.schema
          naming := naming }) :=
    Yields.anyway fun fields => .ok ((name_foldl_addField _ fields).trans named)
  cases named : written.naming with
  | none =>
      rw [named] at rest
      exact given start.naming declaration rest
  | some word =>
      rw [named] at rest
      dsimp only at rest
      cases strategy : NamingStrategy.ofName? word with
      | none =>
          rw [strategy] at rest
          exact nomatch rest
      | some naming =>
          rw [strategy] at rest
          exact given naming declaration rest

theorem adds_of_register (given : register registry written = .ok registered) :
    ∃ entity, Adds registry written entity registered := by
  obtain ⟨declaration, declared, building⟩ := bind_eq_ok.1 given
  obtain ⟨entity, built, registering⟩ := bind_eq_ok.1 building
  obtain ⟨declarationNamed, parent⟩ := of_declaration declared
  have named := (EntityDeclaration.of_build built).1.trans declarationNamed
  rw [Registry.register_eq] at registering
  split_ifs at registering with taken
  refine ⟨entity, ?_, named, ?_, parent⟩
  · rw [← Except.ok.inj registering]
  · rw [← named]
    exact taken

theorem Adds.names {entity : Entity} (adds : Adds registry written entity registered) :
    registered.entities.map Entity.name =
      registry.entities.map Entity.name ++ [written.name] := by
  rw [adds.entities, List.map_append, List.map_singleton, adds.named]

theorem Adds.distinct {entity : Entity} (adds : Adds registry written entity registered)
    (distinct : (registry.entities.map Entity.name).Nodup) :
    (registered.entities.map Entity.name).Nodup := by
  rw [adds.names, ← List.concat_eq_append]
  exact distinct.concat adds.fresh

/-- What steps one after the other do: the names follow in the order of the written entities, are
distinct, and a parent stands before its children. -/
structure Extends (start : Registry) (entities : List WrittenEntity) (registered : Registry) :
    Prop where
  names : registered.entities.map Entity.name =
    start.entities.map Entity.name ++ entities.map WrittenEntity.name
  distinct : (start.entities.map Entity.name).Nodup → (registered.entities.map Entity.name).Nodup
  parents : ∀ before entity after, entities = before ++ entity :: after →
    ∀ parent ∈ entity.parent,
      parent ∈ start.entities.map Entity.name ++ before.map WrittenEntity.name

theorem extends_of_foldlM {start : Registry} {entities : List WrittenEntity}
    (given : entities.foldlM register start = .ok registered) :
    Extends start entities registered := by
  induction entities generalizing start with
  | nil =>
      obtain rfl := Except.ok.inj given
      exact ⟨(List.append_nil _).symm, id, fun before _ _ nothing => by simp at nothing⟩
  | cons first rest ih =>
      rw [List.foldlM_cons] at given
      obtain ⟨next, stepped, more⟩ := bind_eq_ok.1 given
      obtain ⟨entity, adds⟩ := adds_of_register stepped
      have later := ih more
      constructor
      case names =>
        rw [later.names, adds.names, List.append_assoc]
        rfl
      case distinct =>
        intro distinct
        exact later.distinct (adds.distinct distinct)
      case parents =>
        intro before written after split parent child
        cases before with
        | nil =>
            obtain ⟨rfl, -⟩ := List.cons_eq_cons.1 split
            exact List.mem_append_left _ (adds.parent parent child)
        | cons head others =>
            obtain ⟨rfl, tail⟩ := List.cons_eq_cons.1 split
            have found := later.parents others written after tail parent child
            rwa [adds.names, List.append_assoc] at found

/-- The entities of a schema are registered in order, and their references have been checked. -/
theorem of_build {written : Written} {schema : Schema} (built : written.build = .ok schema) :
    Extends .empty written.entities schema.registry ∧ schema.registry.Resolves := by
  obtain ⟨registry, registered, checking⟩ := bind_eq_ok.1 built
  obtain ⟨⟨⟩, checked, read⟩ := bind_eq_ok.1 checking
  obtain ⟨_, -, whole⟩ := bind_eq_ok.1 read
  rw [← pure_eq_ok.1 whole]
  exact ⟨extends_of_foldlM registered, Registry.resolves_of_checkReferences checked⟩

end Schema

end EntityQuery

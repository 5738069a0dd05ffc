import EntityQuery.Proofs.Ident.Written
import EntityQuery.Proofs.Outcome
import EntityQuery.Schema
import Mathlib.Data.List.Nodup
import Mathlib.Tactic.SplitIfs

/-!
# Names of fields

A field is found by its name, so an entity that is built has no two fields of one name: a field that
is declared once more takes the place of the first.  Entities are registered one behind the other,
each under a new name, so this holds of every entity of a schema.
-/

namespace EntityQuery

open Outcome

namespace Entity

variable {entity : Entity} {name : String} {field : Field}

theorem requireTable_eq_ok {table : Ident} :
    entity.requireTable = .ok table ↔ entity.table = some table := by
  unfold requireTable
  cases entity.table with
  | none => simp
  | some held => simp

theorem field_eq_ok : entity.field name = .ok field ↔ entity.field? name = some field := by
  unfold Entity.field
  cases entity.field? name with
  | none => simp
  | some held => simp

theorem field?_name (found : entity.field? name = some field) : field.name = name := by
  have named := List.find?_some found
  exact beq_iff_eq.1 named

theorem hasField_iff : entity.hasField name = true ↔ name ∈ entity.fieldNames := by
  rw [hasField, field?, List.find?_isSome, fieldNames, List.mem_map]
  simp

theorem field?_of_mem (distinct : entity.fieldNames.Nodup) (member : field ∈ entity.fields) :
    entity.field? field.name = some field := by
  have known := hasField_iff.2 (List.mem_map.2 ⟨field, member, rfl⟩)
  obtain ⟨found, given⟩ := Option.isSome_iff_exists.1 known
  rw [given]
  exact congrArg some (List.inj_on_of_nodup_map distinct (List.mem_of_find?_eq_some given) member
    (field?_name given))

end Entity

namespace EntityDeclaration

variable {declaration : EntityDeclaration} {entity : Entity}

/-- The names of the declared fields in order. -/
def fieldNames (declaration : EntityDeclaration) : List String :=
  declaration.fields.map FieldDeclaration.name

theorem mem_declareIn {field : FieldDeclaration} {fields : List FieldDeclaration} {name : String} :
    name ∈ (declareIn field fields).map FieldDeclaration.name ↔
      name = field.name ∨ name ∈ fields.map FieldDeclaration.name := by
  induction fields with
  | nil => simp [declareIn]
  | cons declared rest ih =>
      unfold declareIn
      split_ifs with same
      · simp [same]
      · rw [List.map_cons, List.mem_cons, ih, List.map_cons, List.mem_cons]
        exact or_left_comm

theorem nodup_declareIn (field : FieldDeclaration) {fields : List FieldDeclaration}
    (distinct : (fields.map FieldDeclaration.name).Nodup) :
    ((declareIn field fields).map FieldDeclaration.name).Nodup := by
  induction fields with
  | nil => simp [declareIn]
  | cons declared rest ih =>
      unfold declareIn
      obtain ⟨fresh, others⟩ := List.nodup_cons.1 distinct
      split_ifs with same
      · rw [List.map_cons, ← same]
        exact distinct
      · refine List.nodup_cons.2 ⟨?_, ih others⟩
        rw [mem_declareIn]
        rintro (redeclared | later)
        · exact same redeclared
        · exact fresh later

theorem nodup_foldl_addField (distinct : declaration.fieldNames.Nodup)
    (fields : List FieldDeclaration) :
    (fields.foldl addField declaration).fieldNames.Nodup := by
  induction fields generalizing declaration with
  | nil => exact distinct
  | cons field rest ih => exact ih (nodup_declareIn field distinct)

/-- A field keeps its name and reference; its column is the given one or follows from the name. -/
theorem of_resolve {owner : String} {naming : NamingStrategy} {field : FieldDeclaration}
    {resolved : Field} (given : field.resolve owner naming = .ok resolved) :
    resolved.name = field.name ∧ resolved.reference = field.reference ∧
      resolved.column.name = field.column.getD (naming.columnFor field.name) := by
  unfold FieldDeclaration.resolve at given
  split_ifs at given
  split at given
  case h_1 => exact nomatch given
  case h_2 named =>
      rw [← Except.ok.inj given]
      exact ⟨rfl, rfl, Ident.name_of_ofName named⟩

theorem of_build {identity : Nat} (built : declaration.build identity = .ok entity) :
    entity.name = declaration.name ∧
      List.Forall₂ (fun field resolved =>
        field.resolve declaration.name declaration.naming = .ok resolved)
        declaration.fields entity.fields := by
  unfold build at built
  split_ifs at built
  obtain ⟨_, -, schemed⟩ := bind_eq_ok.1 built
  obtain ⟨_, -, fielded⟩ := bind_eq_ok.1 schemed
  obtain ⟨fields, resolved, whole⟩ := bind_eq_ok.1 fielded
  rw [← pure_eq_ok.1 whole]
  exact ⟨rfl, mapM_eq_ok.1 resolved⟩

theorem fieldNames_of_build {identity : Nat} (built : declaration.build identity = .ok entity) :
    entity.fieldNames = declaration.fieldNames := by
  have named : List.Forall₂ Eq declaration.fieldNames entity.fieldNames := by
    rw [fieldNames, Entity.fieldNames, List.forall₂_map_left_iff, List.forall₂_map_right_iff]
    exact (of_build built).2.imp fun _ _ given => (of_resolve given).1.symm
  rw [List.forall₂_eq_eq_eq] at named
  exact named.symm

theorem fieldNames_extend (parent : Entity) (name : String) :
    (parent.extend name).fieldNames = parent.fieldNames := by
  simp [fieldNames, Entity.extend, Entity.fieldNames, Field.toDeclaration]

end EntityDeclaration

namespace Registry

variable {registry : Registry}

theorem find?_eq_none {name : String} :
    registry.find? name = none ↔ name ∉ registry.entities.map Entity.name := by
  rw [find?, List.find?_eq_none]
  simp

/-- An entity comes behind the others if its name is new. -/
theorem register_eq (entity : Entity) : registry.register entity =
    if entity.name ∈ registry.entities.map Entity.name then
      .error (.config (.duplicateEntity entity.name))
    else .ok ⟨registry.entities ++ [entity]⟩ := by
  unfold register
  cases found : registry.find? entity.name with
  | none => exact (if_neg (find?_eq_none.1 found)).symm
  | some held =>
      have taken : registry.find? entity.name ≠ none := found ▸ nofun
      exact (if_pos (not_not.1 (mt find?_eq_none.2 taken))).symm

end Registry

/-- No entity has two fields of one name. -/
def Registry.HasDistinctFields (registry : Registry) : Prop :=
  ∀ entity ∈ registry.entities, entity.fieldNames.Nodup

namespace Schema

variable {registry registered : Registry}

theorem nodup_start (distinct : registry.HasDistinctFields) (written : WrittenEntity) :
    Yields (fun start => start.fieldNames.Nodup) (written.start registry) := by
  unfold WrittenEntity.start
  split
  case h_1 => exact .ok List.nodup_nil
  case h_2 =>
      split
      case h_1 parent found =>
          refine .ok ?_
          rw [EntityDeclaration.fieldNames_extend]
          exact distinct parent (List.mem_of_find?_eq_some found)
      case h_2 => exact nofun

theorem nodup_declaration (distinct : registry.HasDistinctFields) (written : WrittenEntity) :
    Yields (fun declaration => declaration.fieldNames.Nodup) (written.declaration registry) := by
  refine (nodup_start distinct written).bind fun start inherited => ?_
  have named (naming : NamingStrategy) : Yields (fun declaration => declaration.fieldNames.Nodup)
      (do
        let fields ← written.fields.mapM (·.declaration written.name)
        return fields.foldl EntityDeclaration.addField { start with
          table := written.table.or start.table
          schema := written.schema.or start.schema
          naming := naming }) := by
    refine Yields.anyway fun fields => .ok ?_
    apply EntityDeclaration.nodup_foldl_addField
    exact inherited
  cases written.naming with
  | none => exact named start.naming
  | some word =>
      dsimp only
      cases NamingStrategy.ofName? word with
      | some naming => exact named naming
      | none => exact nofun

theorem hasDistinctFields_register (distinct : registry.HasDistinctFields)
    (written : WrittenEntity) : Yields Registry.HasDistinctFields (register registry written) := by
  refine (nodup_declaration distinct written).bind fun declaration declared => ?_
  intro registered given
  obtain ⟨entity, built, added⟩ := bind_eq_ok.1 given
  rw [Registry.register_eq] at added
  split_ifs at added
  obtain rfl := Except.ok.inj added
  refine List.forall_mem_append.2 ⟨distinct, List.forall_mem_singleton.2 ?_⟩
  rw [EntityDeclaration.fieldNames_of_build built]
  exact declared

/-- In a schema that is built, a name stands for one field of an entity. -/
theorem hasDistinctFields_of_build {written : Written} {schema : Schema}
    (built : written.build = .ok schema) : schema.registry.HasDistinctFields := by
  obtain ⟨registry, registered, checked⟩ := bind_eq_ok.1 built
  have all {start : Registry} (distinct : start.HasDistinctFields) :
      Yields Registry.HasDistinctFields (written.entities.foldlM register start) := by
    induction written.entities generalizing start with
    | nil => exact .ok distinct
    | cons entity rest ih => exact (hasDistinctFields_register distinct entity).bind fun _ => ih
  have empty : Registry.empty.HasDistinctFields := nofun
  have distinct := all empty registry registered
  obtain ⟨_, -, read⟩ := bind_eq_ok.1 checked
  obtain ⟨_, -, whole⟩ := bind_eq_ok.1 read
  rw [← pure_eq_ok.1 whole]
  exact distinct

end Schema

end EntityQuery

import EntityQuery.Entity

/-!
# The registry of entities

Entities are registered under their names, each name once, and listed in order of registration.
References between fields can be checked against a registry, and the fields that link two
entities are found from their references.
-/

namespace EntityQuery

/-- Registered entities in order. -/
structure Registry where
  entities : List Entity

namespace Registry

def empty : Registry := ⟨[]⟩

def size (registry : Registry) : Nat := registry.entities.length

def find? (registry : Registry) (name : String) : Option Entity :=
  registry.entities.find? fun entity => entity.name == name

/-- The entity registered under a name, or an error. -/
def entity (registry : Registry) (name : String) : Except Error Entity :=
  match registry.find? name with
  | some entity => .ok entity
  | none => .error (.config (.unknownEntity name))

/-- Register an entity under its name, which must be new. -/
def register (registry : Registry) (entity : Entity) : Except Error Registry :=
  match registry.find? entity.name with
  | some _ => .error (.config (.duplicateEntity entity.name))
  | none => .ok ⟨registry.entities ++ [entity]⟩

/-- What is wrong with the reference of a field, if anything. -/
def referenceFault? (registry : Registry) (reference : Reference) : Option FieldFault :=
  match registry.find? reference.entity with
  | none => some (.unknownEntity reference.entity)
  | some target =>
      if target.hasField reference.field then none
      else some (.unknownTarget target.name reference.field)

/-- The error for the reference of a field, if it has a wrong one. -/
def fieldError? (registry : Registry) (entity : Entity) (field : Field) : Option Error :=
  (field.reference.bind registry.referenceFault?).map (.invalidField entity.name field.name)

/-- Check that every reference names a registered entity and one of its fields. -/
def checkReferences (registry : Registry) : Except Error Unit :=
  match registry.entities.findSome? fun entity =>
      entity.fields.findSome? (registry.fieldError? entity) with
  | some error => .error error
  | none => .ok ()

end Registry

/-- The fields of an entity that refer to another, each with the field referred to. -/
def referencesTo (entity target : Entity) : List (String × String) :=
  entity.fields.filterMap fun field =>
    match field.reference with
    | some reference =>
        if reference.entity = target.name then some (field.name, reference.field) else none
    | none => none

/-- Pairs of a field of `source` and the field of `target` that it is linked with: by references
of the first entity or, if it has none, by references of the second. -/
def referencePairs (source target : Entity) : List (String × String) :=
  let forward := referencesTo source target
  if forward.isEmpty then (referencesTo target source).map Prod.swap else forward

end EntityQuery

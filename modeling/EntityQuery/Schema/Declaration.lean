import EntityQuery.Registry
import EntityQuery.Text.Split
import EntityQuery.Toml.Document

/-!
# Schemas as they are written

A schema is written as a TOML document with defaults for query options and a list of entities, each
with its fields.  Every key has one kind of value and no other keys are allowed.  An entity or a
field can also be written as an array of its settings in a fixed order.
-/

namespace EntityQuery.Schema

/-- A field as it is written. -/
structure WrittenField where
  name : String
  type : Option String
  column : Option String
  primary : Bool
  unique : Bool
  required : Bool
  references : Option String

/-- An entity as it is written. -/
structure WrittenEntity where
  name : String
  table : Option String
  schema : Option String
  naming : Option String
  parent : Option String
  fields : List WrittenField

/-- A schema as it is written. -/
structure Written where
  defaults : Record
  entities : List WrittenEntity

/-- Settings by name. -/
abbrev Settings := String → Option Toml.Value

namespace Settings

/-- The settings of a table, which has no keys but the given names. -/
def ofTable? (names : List String) (table : Toml.Table) : Option Settings :=
  if table.all fun entry => names.contains entry.1 then some table.find? else none

/-- Settings in the order of their names, of which the first `least` must be there. -/
def ofItems? (names : List String) (least : Nat) (items : List Toml.Value) : Option Settings :=
  if least ≤ items.length then some fun name => (names.zip items).lookup name
  else none

def ofValue? (names : List String) (least : Nat) (value : Toml.Value) : Option Settings :=
  match value.items? with
  | some items => ofItems? names least items
  | none => value.table?.bind (ofTable? names)

def optional {α : Type} (settings : Settings) (read : Toml.Value → Option α) (name : String) :
    Option (Option α) :=
  match settings name with
  | none => some none
  | some value => (read value).map some

def text (settings : Settings) (name : String) : Option (Option String) :=
  settings.optional Toml.Value.text? name

/-- A truth value; a missing one is false. -/
def flag (settings : Settings) (name : String) : Option Bool :=
  (settings.optional Toml.Value.bool? name).map (·.getD false)

/-- Items of one kind; none if the setting is missing. -/
def list {α : Type} (settings : Settings) (read : Toml.Value → Option α) (name : String) :
    Option (List α) := do
  let items ← settings.optional Toml.Value.items? name
  (items.getD []).mapM read

end Settings

namespace WrittenField

/-- The settings of a field in order. -/
def settingNames : List String :=
  ["name", "type", "column", "primary", "unique", "required", "references"]

def ofValue? (value : Toml.Value) : Option WrittenField := do
  let settings ← Settings.ofValue? settingNames 7 value
  return {
    name := ← (settings "name").bind Toml.Value.text?
    type := ← settings.text "type"
    column := ← settings.text "column"
    primary := ← settings.flag "primary"
    unique := ← settings.flag "unique"
    required := ← settings.flag "required"
    references := ← settings.text "references" }

/-- The field that a text of the form `Entity.field` refers to. -/
def reference? (text : String) : Option Reference :=
  (Text.splitFirst? '.' text).map fun parts => ⟨parts.1, parts.2⟩

def declaration (entity : String) (field : WrittenField) : Except Error FieldDeclaration := do
  let fail {α : Type} (fault : FieldFault) : Except Error α :=
    .error (.invalidField entity field.name fault)
  let type ← match field.type with
    | none => fail .missingType
    | some word =>
        match FieldType.ofName? word with
        | some type => pure type
        | none => fail (.unknownType word)
  let reference ← match field.references with
    | none => pure none
    | some text =>
        match reference? text with
        | some reference => pure (some reference)
        | none => fail (.malformedReference text)
  return ⟨field.name, field.column, type, field.primary, field.unique, field.required,
    reference⟩

end WrittenField

namespace WrittenEntity

/-- The settings of an entity in order. -/
def settingNames : List String := ["name", "table", "schema", "naming", "extends", "fields"]

def ofValue? (value : Toml.Value) : Option WrittenEntity := do
  let settings ← Settings.ofValue? settingNames 5 value
  return {
    name := ← (settings "name").bind Toml.Value.text?
    table := ← settings.text "table"
    schema := ← settings.text "schema"
    naming := ← settings.text "naming"
    parent := ← settings.text "extends"
    fields := ← settings.list WrittenField.ofValue? "fields" }

/-- What the declaration starts from: the parent, which must be registered, or nothing. -/
def start (registry : Registry) (entity : WrittenEntity) : Except Error EntityDeclaration :=
  match entity.parent with
  | none => .ok (.named entity.name)
  | some parent =>
      match registry.find? parent with
      | some parent => .ok (parent.extend entity.name)
      | none => .error (.config (.unknownParent entity.name parent))

def declaration (registry : Registry) (entity : WrittenEntity) :
    Except Error EntityDeclaration := do
  let start ← entity.start registry
  let naming ← match entity.naming with
    | none => pure start.naming
    | some word =>
        match NamingStrategy.ofName? word with
        | some naming => pure naming
        | none => throw (.config (.unknownNaming entity.name word))
  let fields ← entity.fields.mapM (·.declaration entity.name)
  let declaration : EntityDeclaration := { start with
    table := entity.table.or start.table
    schema := entity.schema.or start.schema
    naming := naming }
  return fields.foldl EntityDeclaration.addField declaration

end WrittenEntity

namespace Written

def defaultsOf? (value : Toml.Value) : Option Record :=
  match value.toJson? with
  | some (.object entries) => some entries
  | _ => none

/-- The schema that a TOML document describes. -/
def ofTable? (table : Toml.Table) : Option Written := do
  let settings ← Settings.ofTable? ["defaults", "entities"] table
  let defaults ← settings.optional defaultsOf? "defaults"
  return ⟨defaults.getD [], ← settings.list WrittenEntity.ofValue? "entities"⟩

/-- The schema that a text describes, or an error. -/
def read (text : String) : Except Error Written :=
  match (Toml.read? text).bind ofTable? with
  | some written => .ok written
  | none => .error (.config .invalidSchema)

end Written

end EntityQuery.Schema

import EntityQuery.Error
import EntityQuery.Text.SnakeCase

/-!
# Entities

An entity is a named table with named fields.  It is declared first and built once; building
resolves the column of each field and checks every name that will stand in SQL text.  A child
entity is declared from the resolved fields of its parent.
-/

namespace EntityQuery

/-- The type of a field. -/
inductive FieldType
  | text
  | integer
  | decimal
  | boolean
  | json
  | date
  | dateTime
  | uuid
  | binary
  | any
  deriving DecidableEq

namespace FieldType

def ofName? (name : String) : Option FieldType :=
  if name = "text" ∨ name = "string" then some .text
  else if name = "integer" then some .integer
  else if name = "decimal" ∨ name = "number" then some .decimal
  else if name = "boolean" then some .boolean
  else if name = "json" ∨ name = "jsonb" then some .json
  else if name = "date" then some .date
  else if name = "dateTime" then some .dateTime
  else if name = "uuid" then some .uuid
  else if name = "binary" then some .binary
  else if name = "any" then some .any
  else none

def name : FieldType → String
  | .text => "text"
  | .integer => "integer"
  | .decimal => "decimal"
  | .boolean => "boolean"
  | .json => "json"
  | .date => "date"
  | .dateTime => "dateTime"
  | .uuid => "uuid"
  | .binary => "binary"
  | .any => "any"

/-- The SQL type that placeholders for the field are cast to. -/
def sqlType? : FieldType → Option String
  | .text => some "text"
  | .integer => some "bigint"
  | .decimal => some "numeric"
  | .boolean => some "boolean"
  | .json => some "jsonb"
  | .date => some "date"
  | .dateTime => some "timestamptz"
  | .uuid => some "uuid"
  | .binary => some "bytea"
  | .any => none

end FieldType

/-- How the column of a field is named when none is given. -/
inductive NamingStrategy
  | identity
  | snakeCase
  deriving DecidableEq

namespace NamingStrategy

def ofName? (name : String) : Option NamingStrategy :=
  if name = "identity" then some .identity
  else if name = "snake_case" ∨ name = "snakeCase" then some .snakeCase
  else none

/-- The column name for a field name. -/
def columnFor : NamingStrategy → String → String
  | .identity, name => name
  | .snakeCase, name => Text.snakeCase name

end NamingStrategy

/-- A field of another entity, by name. -/
structure Reference where
  entity : String
  field : String
  deriving DecidableEq

/-- A field as it is declared. -/
structure FieldDeclaration where
  name : String
  column : Option String
  type : FieldType
  primary : Bool
  unique : Bool
  required : Bool
  reference : Option Reference

/-- A field with its column. -/
structure Field where
  name : String
  column : Ident
  type : FieldType
  primary : Bool
  unique : Bool
  required : Bool
  reference : Option Reference
  deriving DecidableEq

/-- An entity.  Two entities are the same one only if they have the same identity: alike entities
that were built apart are different. -/
structure Entity where
  identity : Nat
  name : String
  table : Option Ident
  schema : Option Ident
  naming : NamingStrategy
  fields : List Field
  deriving DecidableEq

/-- An entity as it is declared. -/
structure EntityDeclaration where
  name : String
  table : Option String
  schema : Option String
  naming : NamingStrategy
  fields : List FieldDeclaration

namespace FieldDeclaration

/-- A plain field with a name and a type. -/
def plain (name : String) (type : FieldType) : FieldDeclaration :=
  ⟨name, none, type, false, false, false, none⟩

def resolve (entity : String) (naming : NamingStrategy) (field : FieldDeclaration) :
    Except Error Field :=
  if field.name = "" then .error (.invalidField entity "" .emptyName)
  else
    match Ident.ofName (field.column.getD (naming.columnFor field.name)) with
    | .error fault => .error (.invalidField entity field.name (.column fault))
    | .ok column =>
        .ok ⟨field.name, column, field.type, field.primary, field.unique, field.required,
          field.reference⟩

end FieldDeclaration

/-- The declaration that resolves to a field again. -/
def Field.toDeclaration (field : Field) : FieldDeclaration :=
  ⟨field.name, some field.column.name, field.type, field.primary, field.unique, field.required,
    field.reference⟩

namespace EntityDeclaration

def named (name : String) : EntityDeclaration := ⟨name, none, none, .identity, []⟩

/-- The fields with one more: in place of the field with its name, else at the end. -/
def declareIn (field : FieldDeclaration) : List FieldDeclaration → List FieldDeclaration
  | [] => [field]
  | declared :: rest =>
      if declared.name = field.name then field :: rest else declared :: declareIn field rest

def addField (declaration : EntityDeclaration) (field : FieldDeclaration) : EntityDeclaration :=
  { declaration with fields := declareIn field declaration.fields }

/-- An optional name in a role, checked as an identifier. -/
def resolveName (entity : String) (role : NameRole) :
    Option String → Except Error (Option Ident)
  | none => .ok none
  | some name =>
      match Ident.ofName name with
      | .ok ident => .ok (some ident)
      | .error fault => .error (.validation (.name entity role fault))

/-- Build the entity, as the one with the given identity. -/
def build (declaration : EntityDeclaration) (identity : Nat) : Except Error Entity :=
  if declaration.name = "" then .error (.validation .emptyEntityName)
  else do
    let table ← resolveName declaration.name .table declaration.table
    let schema ← resolveName declaration.name .schema declaration.schema
    let fields ← declaration.fields.mapM (·.resolve declaration.name declaration.naming)
    return ⟨identity, declaration.name, table, schema, declaration.naming, fields⟩

end EntityDeclaration

namespace Entity

/-- The declaration of a child entity, which starts with everything of its parent but the name. -/
def extend (parent : Entity) (name : String) : EntityDeclaration :=
  ⟨name, parent.table.map Ident.name, parent.schema.map Ident.name, parent.naming,
    parent.fields.map Field.toDeclaration⟩

/-- The names of the fields in order. -/
def fieldNames (entity : Entity) : List String := entity.fields.map Field.name

def field? (entity : Entity) (name : String) : Option Field :=
  entity.fields.find? fun field => field.name == name

def hasField (entity : Entity) (name : String) : Bool := (entity.field? name).isSome

/-- The field with a name, or an error. -/
def field (entity : Entity) (name : String) : Except Error Field :=
  match entity.field? name with
  | some field => .ok field
  | none => .error (.unknownField entity.name name)

def primaryFields (entity : Entity) : List Field := entity.fields.filter Field.primary

def requireTable (entity : Entity) : Except Error Ident :=
  match entity.table with
  | some table => .ok table
  | none => .error (.missingTable entity.name)

/-- The table in SQL text, after its schema if it has one. -/
def qualifiedTable (entity : Entity) : Except Error String := do
  let table ← entity.requireTable
  return match entity.schema with
    | some schema => Ident.qualified schema table
    | none => table.toSql

end Entity

/-- A field of a certain entity. -/
structure FieldRef where
  owner : Entity
  name : String
  known : owner.hasField name = true

namespace FieldRef

def field (reference : FieldRef) : Field :=
  (reference.owner.field? reference.name).get reference.known

def message (reference : FieldRef) : String :=
  "FieldRef(" ++ reference.owner.name ++ "." ++ reference.name ++ ")"

/-- References are the same if their entities are the same one and their names are equal. -/
def isSame (first second : FieldRef) : Bool :=
  first.owner.identity == second.owner.identity && first.name == second.name

end FieldRef

/-- The reference to a field by its name. -/
def Entity.fieldRef (entity : Entity) (name : String) : Except Error FieldRef :=
  if known : entity.hasField name = true then .ok ⟨entity, name, known⟩
  else .error (.unknownField entity.name name)

end EntityQuery

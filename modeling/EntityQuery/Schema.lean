import EntityQuery.Execution.Event
import EntityQuery.Query
import EntityQuery.Schema.Declaration

/-!
# Schemas

A schema holds the registered entities of a program and the defaults of its queries.  It is built
from its written form, entity by entity: an entity can only extend one that is written before it.
-/

namespace EntityQuery

/-- Registered entities and the defaults of queries on them. -/
structure Schema where
  registry : Registry
  defaults : Options

namespace Schema

def register (registry : Registry) (entity : WrittenEntity) : Except Error Registry := do
  let declaration ← entity.declaration registry
  registry.register (← declaration.build registry.size)

/-- Build every entity in order, check the references between them and read the defaults. -/
def Written.build (written : Written) : Except Error Schema := do
  let registry ← written.entities.foldlM Schema.register Registry.empty
  registry.checkReferences
  let (defaults, outcome) := Options.unset.setAll written.defaults
  outcome
  return ⟨registry, defaults⟩

/-- The event that is logged when the schema has been built. -/
def event (schema : Schema) : Event :=
  .schemaBuilt schema.registry.size (schema.defaults.setNames.map OptionName.text)

def ofText (text : String) : Except Error Schema := do
  let written ← Written.read text
  written.build

/-- The schema in the file with a path, whose text is given if there is such a file. -/
def ofFile (path : String) : Option String → Except Error Schema
  | some text => ofText text
  | none => .error (.config (.missingFile path))

/-- A query on the entity with a name, with the defaults of the schema. -/
def query (schema : Schema) (name : String) : Except Error Query := do
  let entity ← schema.registry.entity name
  return (Query.on entity).withDefaults schema.defaults

end Schema

end EntityQuery

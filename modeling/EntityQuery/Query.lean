import EntityQuery.Options
import EntityQuery.Statement.Update

/-!
# Queries

A query is on one entity, with options of its own, defaults for the options it leaves unset, an
optional alias of the table, and joined queries.  Formatting reads the plan of a query, in which
the defaults are resolved.
-/

namespace EntityQuery

/-- A query on an entity. -/
structure Query where
  entity : Entity
  tableAlias : Option String
  options : Options
  defaults : Option Options
  joins : List Join

/-- The parts of a plan without expressions, from options. -/
def PlanSettings.ofOptions (options : Options) : PlanSettings where
  groupBy := options.items .groupBy
  orderBy := options.items .orderBy
  limit := options.count? .limit
  offset := options.count? .offset
  distinct := options.isOn .distinct
  locking :=
    { forUpdate := options.isOn .forUpdate
      forShare := options.isOn .forShare
      tables := options.items .lockedTables
      noWait := options.isOn .noWait
      skipLocked := options.isOn .skipLocked }
  batchSize := options.count? .batchSize
  first := options.isOn .first
  require := options.isOn .require
  debug := options.isOn .debug

namespace Query

/-- A query on an entity with nothing set. -/
def on (entity : Entity) : Query := ⟨entity, none, .unset, none, []⟩

/-- The options of the query, with its defaults for those that are unset. -/
def effectiveOptions (query : Query) : Options :=
  match query.defaults with
  | some defaults => query.options.withDefaults defaults
  | none => query.options

/-- The columns of the query: those that are set, else all fields of the entity. -/
def columns (query : Query) : List Column :=
  (query.effectiveOptions.held? (.list .fields)).getD query.entity.columns

def plan (query : Query) : Plan where
  entity := query.entity
  tableAlias := query.tableAlias
  columns := query.columns
  filter := query.effectiveOptions.items .filter
  having := query.effectiveOptions.items .having
  settings := .ofOptions query.effectiveOptions
  joins := query.joins

/-- The query with an alias of its table. -/
def named (query : Query) (tableAlias : String) : Query :=
  { query with tableAlias := some tableAlias }

def withDefaults (query : Query) (defaults : Options) : Query :=
  { query with defaults := some defaults }

def withOptions (query : Query) (options : Options) : Query := { query with options := options }

/-- The query with an option set from JSON. -/
def set (query : Query) (spelling : String) (value : Option Json) : Except Error Query :=
  match query.options.set spelling value with
  | (options, .ok ()) => .ok (query.withOptions options)
  | (_, .error error) => .error error

/-- The query with one more joined query. -/
def join (query : Query) (join : Join) : Query := { query with joins := query.joins ++ [join] }

/-- A query as it is joined: without pairs of its own and under its own name. -/
def joinAs (kind : JoinKind) (joined : Query) : Join := ⟨kind, joined.plan, none, []⟩

end Query

end EntityQuery

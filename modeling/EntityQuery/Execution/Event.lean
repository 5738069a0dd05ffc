import EntityQuery.Error

/-!
# Log events

What is logged while statements are executed and schemas are built.  Bound values are only part of
an event if the query asks for them.
-/

namespace EntityQuery

/-- How detailed an event is. -/
inductive Severity
  | trace
  | debug
  | warn
  deriving DecidableEq

def Severity.name : Severity → String
  | .trace => "TRACE"
  | .debug => "DEBUG"
  | .warn => "WARN"

/-- What a log event says about bound values. -/
inductive LoggedValues
  | shown (values : List Json)
  | counted (count : Nat)

/-- A log event. -/
inductive Event
  | executing (entity : String) (verb : Verb) (sql : String) (values : LoggedValues)
  | batches (entity : String) (verb : Verb) (count : Nat)
  | rollbackFailed (first second : Error)
  | schemaBuilt (entities : Nat) (defaults : List String)

namespace Event

def severity : Event → Severity
  | .executing .. | .schemaBuilt .. => .debug
  | .batches .. => .trace
  | .rollbackFailed .. => .warn

/-- The part of the library that the event belongs to. -/
def topic : Event → String
  | .schemaBuilt .. => "sqlweave.config"
  | _ => "sqlweave.sql"

def message : Event → String
  | .executing .. => "executing statement"
  | .batches .. => "running batches concurrently"
  | .rollbackFailed .. => "rollback failed"
  | .schemaBuilt .. => "schema built"

def listText (names : List String) : String :=
  "[" ++ ", ".intercalate (names.map Text.quoted) ++ "]"

def fields : Event → Record
  | .executing entity verb sql (.shown values) =>
      [("entity", .string entity), ("query_type", .string verb.name), ("sql", .string sql),
        ("values", .array values)]
  | .executing entity verb sql (.counted count) =>
      [("entity", .string entity), ("query_type", .string verb.name), ("sql", .string sql),
        ("param_count", .integer count)]
  | .batches entity verb count =>
      [("entity", .string entity), ("query_type", .string verb.name),
        ("batches", .integer count)]
  | .rollbackFailed first second =>
      [("error", .string first.message), ("rollback_error", .string second.message)]
  | .schemaBuilt entities defaults =>
      [("entities", .integer entities), ("defaults", .string (listText defaults))]

end Event

end EntityQuery

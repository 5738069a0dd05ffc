import EntityQuery.Fragment
import EntityQuery.Placeholder
import EntityQuery.Json.Render

/-!
# Compiled statements

A statement is SQL text, the values of its placeholders and the aliases of its result columns.
-/

namespace EntityQuery

/-- A compiled statement.  The aliases name its result columns in order. -/
structure Statement where
  sql : String
  values : List Json
  aliases : List String

/-- A statement as an error reports it; without values when they are to stay private. -/
structure FailedStatement where
  sql : String
  values : Option (List Json)

namespace Statement

/-- A finished fragment with the aliases of its result columns. -/
def ofFragment (fragment : Fragment) (aliases : List String) : Statement :=
  ⟨fragment.text, fragment.values, aliases⟩

/-- The text and values of the statement. -/
def toFragment (statement : Statement) : Fragment := ⟨statement.sql, statement.values⟩

/-- The number of placeholders in the text. -/
def placeholderCount (statement : Statement) : Nat := Placeholder.count statement.sql

/-- Whether every placeholder has exactly one value. -/
def isAligned (statement : Statement) : Bool :=
  statement.placeholderCount == statement.values.length

/-- The statement for an error report; the values are kept only for debugging. -/
def toFailed (statement : Statement) (debug : Bool) : FailedStatement :=
  ⟨statement.sql, if debug then some statement.values else none⟩

end Statement

def FailedStatement.message (statement : FailedStatement) : String :=
  let values := match statement.values with
    | some values => (Json.array values).render
    | none => "<redacted>"
  "sql: " ++ statement.sql ++ ", values: " ++ values

end EntityQuery

import EntityQuery.Statement.Select

/-!
# Statements over the clauses of a plan

Besides SELECT, a plan gives a COUNT of its rows, and its clauses are the parts that statements
which write rows are made of.
-/

namespace EntityQuery.Plan

/-- The scope of the columns of the plan. -/
def scope (plan : Plan) : Except Error Scope := Scope.ofNames plan.entity plan.tableAlias

def outputColumns (plan : Plan) (scope : Scope) : Except Error (List OutputColumn) :=
  Column.formatAll scope none plan.columns

def whereClause (plan : Plan) (scope : Scope) : Except Error Fragment := do
  let items ← Expr.formatAll scope plan.filter
  return Clause.predicate "WHERE " items

def havingClause (plan : Plan) (scope : Scope) : Except Error Fragment := do
  let items ← Expr.formatAll scope plan.having
  return Clause.predicate "HAVING " items

def joinedTables (plan : Plan) (scope : Scope) : Except Error (List JoinedTable) :=
  Join.formatAll scope plan.joins

/-- The source of rows after its keyword. -/
def fromClause (scope : Scope) : Except Error String := do
  let source ← scope.source
  return "FROM " ++ source

/-- The columns that a written row is returned with, after their keyword. -/
def returningClause (columns : List OutputColumn) : Fragment :=
  .ofText "RETURNING " ++ OutputColumn.list columns

/-- The statement that counts the rows of the plan. -/
def count (plan : Plan) : Except Error Statement := do
  let scope ← plan.scope
  let joined ← plan.joinedTables scope
  let source ← fromClause scope
  let filter ← plan.whereClause scope
  let fragment := Fragment.clauses
    [.ofText "SELECT COUNT(*) AS count", .ofText source, JoinedTable.clauses joined, filter]
  return .ofFragment fragment ["count"]

/-- The statement that deletes the rows of the plan. -/
def delete (plan : Plan) : Except Error Statement := do
  let scope ← plan.scope
  let source ← fromClause scope
  let returned ← plan.outputColumns scope
  let filter ← plan.whereClause scope
  let fragment := Fragment.clauses
    [.ofText ("DELETE " ++ source), filter, returningClause returned]
  return .ofFragment fragment (OutputColumn.aliases returned)

/-- The number of rows that a statement may write at most, which must not be zero. -/
def batchSize (plan : Plan) : Except Error (Option Nat) :=
  match plan.settings.batchSize with
  | some 0 => .error (.invalidOption "batchSize" .notPositive)
  | size => .ok size

/-- The first rows of a list, then the rest in chunks of `size + 1`. -/
def chunks {Row : Type} (size : Nat) (rows : List Row) : List (List Row) :=
  match rows with
  | [] => []
  | first :: rest => (first :: rest.take size) :: chunks size (rest.drop size)
termination_by rows.length
decreasing_by simp only [List.length_drop, List.length_cons]; omega

def batches {Row : Type} (plan : Plan) (rows : List Row) : Except Error (List (List Row)) :=
  if rows.isEmpty then .ok []
  else do
    match ← plan.batchSize with
    | some size => return chunks (size - 1) rows
    | none => return [rows]

end EntityQuery.Plan

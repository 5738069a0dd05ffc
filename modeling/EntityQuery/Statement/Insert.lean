import EntityQuery.Statement.Clauses

/-!
# INSERT statements

The column list comes from the first row; every row gives one tuple by looking its values up by
name.  A row without one of the fields leaves a placeholder without value, so that the statement
does not pass validation.
-/

namespace EntityQuery

/-- Where inserted rows come from, when they are not given as records. -/
inductive InsertSource
  | query (plan : Plan)
  | raw (fragment : Fragment)

namespace Plan

/-- The fields of the entity that a row names, in the order of the row. -/
def knownFields (entity : Entity) (row : Record) : List Field :=
  (Record.keys row).filterMap entity.field?

/-- The placeholder for a field of a row. -/
def slot (row : Record) (field : Field) : Fragment :=
  match Record.find? row field.name with
  | some value => .bound value
  | none => .unbound

/-- The values of a row in parentheses. -/
def insertTuple (fields : List Field) (row : Record) : Fragment :=
  (Fragment.intercalate ", " (fields.map (slot row))).parenthesized

def columnNames (fields : List Field) : String :=
  ", ".intercalate (fields.map fun field => field.column.toSql)

def insert (plan : Plan) (rows : List Record) : Except Error Statement := do
  let scope ← plan.scope
  let name := plan.entity.name
  match rows with
  | [] => throw (.validation (.rows name .nothingToInsert))
  | row :: _ =>
      let fields := knownFields plan.entity row
      if fields.isEmpty then throw (.validation (.rows name .noKnownFields))
      let source ← scope.source
      let returned ← plan.outputColumns scope
      let fragment := Fragment.clauses
        [.ofText ("INSERT INTO " ++ source ++ " (" ++ columnNames fields ++ ")"),
          .ofText "VALUES " ++ .joined ", " (rows.map (insertTuple fields)),
          returningClause returned]
      return .ofFragment fragment (OutputColumn.aliases returned)

/-- The statements that insert rows batch by batch. -/
def inserts (plan : Plan) (rows : List Record) : Except Error (List Statement) := do
  let _ ← plan.scope
  let batches ← plan.batches rows
  batches.mapM plan.insert

/-- The fragment of a source of inserted rows. -/
def sourceFragment : InsertSource → Except Error Fragment
  | .query source => return (← source.select).toFragment
  | .raw fragment => .ok fragment

/-- The statement that inserts the rows of a source. -/
def insertFrom (plan : Plan) (source : InsertSource) : Except Error Statement := do
  let scope ← plan.scope
  let target ← scope.source
  let body ← sourceFragment source
  let returned ← plan.outputColumns scope
  let fragment := Fragment.clauses
    [.ofText ("INSERT INTO " ++ target), body, returningClause returned]
  return .ofFragment fragment (OutputColumn.aliases returned)

end Plan

end EntityQuery

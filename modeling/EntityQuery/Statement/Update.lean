import EntityQuery.Statement.Insert

/-!
# UPDATE statements

One record is written by assignments; without a condition of its own the statement is restricted
to the primary key of the record.  Many records are written in one statement from a list of
values, matched with the table by the primary key.  Key columns are never assigned.
-/

namespace EntityQuery.Plan

/-- The fields that a record assigns, with their values. -/
def assignments (entity : Entity) (record : Record) : List (Field × Json) :=
  record.filterMap fun entry =>
    (entity.field? entry.1).bind fun field =>
      if field.primary then none else some (field, entry.2)

def assignment (entry : Field × Json) : Fragment :=
  .ofText (entry.1.column.toSql ++ " = ") ++ .bound entry.2

/-- The condition that a row has the primary key of a record; nothing if the entity has no primary
key or the record does not carry all of it. -/
def primaryFilter (plan : Plan) (scope : Scope) (record : Record) : Except Error Fragment :=
  let primary := plan.entity.primaryFields
  if primary.isEmpty || !primary.all fun field => Record.has record field.name then .ok .empty
  else do
    let keys := primary.map fun field =>
      let value := match Record.find? record field.name with
        | some value => Expr.value value
        | none => .unbound
      (field.name, value)
    let condition ← (Grouping.equalsAll keys).toExpr.format scope
    return .ofText "WHERE " ++ condition

/-- The statement that updates the rows of the plan from a record. -/
def update (plan : Plan) (record : Record) : Except Error Statement := do
  let scope ← plan.scope
  let assigned := assignments plan.entity record
  if assigned.isEmpty then throw (.validation (.rows plan.entity.name .noFieldsToUpdate))
  let source ← scope.source
  let filter ←
    if plan.filter.isEmpty then plan.primaryFilter scope record else plan.whereClause scope
  let returned ← plan.outputColumns scope
  let fragment := Fragment.clauses
    [.ofText ("UPDATE " ++ source ++ " SET ") ++ .joined ", " (assigned.map assignment),
      filter, returningClause returned]
  return .ofFragment fragment (OutputColumn.aliases returned)

/-- The name of the list of values in a batch update. -/
def valuesName : Ident := ⟨"v", by decide, by decide⟩

/-- A placeholder cast to the type of its field, since a list of values has no types. -/
def castSlot (record : Record) (field : Field) : Fragment :=
  match field.type.sqlType? with
  | some sqlType => slot record field ++ .ofText ("::" ++ sqlType)
  | none => slot record field

/-- The values of a record in parentheses, each cast to its type. -/
def updateTuple (fields : List Field) (record : Record) : Fragment :=
  (Fragment.intercalate ", " (fields.map (castSlot record))).parenthesized

/-- An assignment from the list of values. -/
def batchAssignment (field : Field) : String :=
  field.column.toSql ++ " = " ++ Ident.qualified valuesName field.column

/-- The equation of a key column with the list of values. -/
def batchKey (qualifier : Ident) (field : Field) : String :=
  Ident.qualified qualifier field.column ++ " = " ++ Ident.qualified valuesName field.column

/-- What prevents a batch update with these fields, if anything. -/
def batchFault? (primary fields : List Field) : Option RowsFault :=
  if primary.isEmpty then some .noPrimaryKey
  else
    match primary.find? fun key => !fields.any fun field => field.name == key.name with
    | some missing => some (.missingKey missing.name)
    | none => if fields.all Field.primary then some .noFieldsToUpdate else none

/-- The statement that updates rows from records with the same fields, by primary key. -/
def updateBatch (plan : Plan) (records : List Record) : Except Error Statement := do
  let scope ← plan.scope
  let name := plan.entity.name
  match records with
  | [] => throw (.validation (.rows name .nothingToUpdate))
  | record :: _ =>
      let fields := knownFields plan.entity record
      let primary := plan.entity.primaryFields
      match batchFault? primary fields with
      | some fault => throw (.validation (.rows name fault))
      | none =>
          let qualifier ← scope.qualifier
          let source ← scope.source
          let assigned := (fields.filter fun field => !field.primary).map batchAssignment
          let keys := primary.map (batchKey qualifier)
          let items ← Expr.formatAll scope plan.filter
          let extra := (Junction.and.combine items).after " AND "
          let returned ← plan.outputColumns scope
          let fragment := Fragment.clauses
            [.ofText ("UPDATE " ++ source ++ " SET " ++ ", ".intercalate assigned),
              .ofText "FROM (VALUES " ++ .joined ", " (records.map (updateTuple fields)) ++
                .ofText (") AS " ++ valuesName.toSql ++ "(" ++ columnNames fields ++ ")"),
              .ofText ("WHERE " ++ " AND ".intercalate keys) ++ extra,
              returningClause returned]
          return .ofFragment fragment (OutputColumn.aliases returned)

/-- The statements that update rows from records batch by batch. -/
def updateMany (plan : Plan) (records : List Record) : Except Error (List Statement) := do
  let _ ← plan.scope
  let batches ← plan.batches records
  batches.mapM plan.updateBatch

end EntityQuery.Plan

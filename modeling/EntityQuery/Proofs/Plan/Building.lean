import EntityQuery.Proofs.Plan.Requirement

/-!
# What is built from a plan

Besides whole statements, a plan is asked for single clauses and for statements in batches.  Each
request has its list of requirements, put together from those of the clauses that it formats.
-/

namespace EntityQuery

/-- A clause that a plan is asked for by itself. -/
inductive ClauseRequest
  | table
  | source
  | fromClause
  | columns
  | returning
  | joinClauses
  | joinColumns
  | filter
  | groupBy
  | having
  | orderBy
  | locking

/-- Anything that a plan is asked to format. -/
inductive BuildRequest
  | scope
  | clause (request : ClauseRequest)
  | statement (request : StatementRequest)
  | batches (rows : List Record)
  | statements (request : BatchRequest)

namespace Plan

/-- The clause of the plan for a request. -/
def clause (plan : Plan) (scope : Scope) : ClauseRequest → Except Error Fragment
  | .table => return .ofText (← plan.entity.qualifiedTable)
  | .source => return .ofText (← scope.source)
  | .fromClause => return .ofText (← Plan.fromClause scope)
  | .columns => return OutputColumn.list (← plan.outputColumns scope)
  | .returning => return returningClause (← plan.outputColumns scope)
  | .joinClauses => return JoinedTable.clauses (← plan.joinedTables scope)
  | .joinColumns => return OutputColumn.list (JoinedTable.allColumns (← plan.joinedTables scope))
  | .filter => plan.whereClause scope
  | .groupBy => Clause.groupBy scope plan.settings
  | .having => plan.havingClause scope
  | .orderBy => Clause.orderBy scope plan.settings
  | .locking => return .ofText (← Clause.locking plan.settings.locking)

/-- Format what is asked for, without its result. -/
def build (plan : Plan) : BuildRequest → Except Error Unit
  | .scope => discard plan.scope
  | .clause request => do discard (plan.clause (← plan.scope) request)
  | .statement request => discard (plan.statement request)
  | .batches rows => do
      let _ ← plan.scope
      discard (plan.batches rows)
  | .statements request => discard (plan.statements request)

/-- The scope of the columns of the plan, by its names. -/
def namedScope (plan : Plan) : NamedScope := ⟨plan.entity, plan.tableAlias⟩

/-- An alias must be a name, whatever is built. -/
def scopeRequirements (plan : Plan) : List Requirement :=
  plan.tableAlias.toList.map (.name plan.entity .queryAlias)

def clauseRequirements (plan : Plan) : ClauseRequest → List Requirement
  | .table | .source | .fromClause => [.table plan.entity]
  | .columns | .returning => Column.requirementsAll plan.namedScope none plan.columns
  | .joinClauses | .joinColumns => Join.requirementsAll plan.namedScope plan.joins
  | .filter => Expr.requirementsAll plan.namedScope plan.filter
  | .groupBy => plan.settings.groupBy.flatMap (Target.requirements plan.namedScope)
  | .having => Expr.requirementsAll plan.namedScope plan.having
  | .orderBy => plan.settings.orderBy.flatMap fun term => term.target.requirements plan.namedScope
  | .locking => plan.settings.locking.requirements

end Plan

/-- What prevents rows from being inserted, if anything. -/
def Entity.insertFault? (entity : Entity) : List Record → Option RowsFault
  | [] => some .nothingToInsert
  | row :: _ => if (Plan.knownFields entity row).isEmpty then some .noKnownFields else none

/-- What prevents rows from being updated in one statement, if anything. -/
def Entity.updateFault? (entity : Entity) : List Record → Option RowsFault
  | [] => some .nothingToUpdate
  | record :: _ => Plan.batchFault? entity.primaryFields (Plan.knownFields entity record)

/-- What is required of the data that a statement is given. -/
def StatementRequest.rowsRequirements (entity : Entity) : StatementRequest → List Requirement
  | .insert rows => [.rows entity (entity.insertFault? rows)]
  | .update record =>
      [.rows entity
        (if (Plan.assignments entity record).isEmpty then some .noFieldsToUpdate else none)]
  | .updateBatch records => [.rows entity (entity.updateFault? records)]
  | .select | .count | .insertFrom _ | .delete => []

def InsertSource.requirements : InsertSource → List Requirement
  | .query plan => plan.requirements
  | .raw _ => []

namespace Plan

/-- What a statement requires once its rows can be written. -/
def bodyRequirements (plan : Plan) : StatementRequest → List Requirement
  | .select =>
      [.columns, .joinClauses, .fromClause, .filter, .groupBy, .having, .orderBy,
        .locking].flatMap plan.clauseRequirements
  | .count => [.joinClauses, .fromClause, .filter].flatMap plan.clauseRequirements
  | .insert _ => [.source, .returning].flatMap plan.clauseRequirements
  | .insertFrom source =>
      plan.clauseRequirements .source ++ source.requirements ++ plan.clauseRequirements .returning
  | .update _ => [.source, .filter, .returning].flatMap plan.clauseRequirements
  | .updateBatch _ =>
      plan.namedScope.qualifier ++
        [.source, .filter, .returning].flatMap plan.clauseRequirements
  | .delete => [.fromClause, .returning, .filter].flatMap plan.clauseRequirements

def statementRequirements (plan : Plan) (request : StatementRequest) : List Requirement :=
  plan.scopeRequirements ++ request.rowsRequirements plan.entity ++ plan.bodyRequirements request

/-- Rows are only split if there are any. -/
def batchesRequirements {Row : Type} (plan : Plan) (rows : List Row) : List Requirement :=
  if rows.isEmpty then [] else [.batchSize plan.settings.batchSize]

/-- The rows batch by batch, if they can be split. -/
def batched {Row : Type} (plan : Plan) (rows : List Row) : List (List Row) :=
  match plan.batches rows with
  | .ok batches => batches
  | .error _ => []

/-- What a statement for each batch requires: the size first, then each batch. -/
def inBatches (plan : Plan) (rows : List Record) (request : List Record → StatementRequest) :
    List Requirement :=
  plan.scopeRequirements ++ plan.batchesRequirements rows ++
    (plan.batched rows).flatMap fun batch => plan.statementRequirements (request batch)

def buildRequirements (plan : Plan) : BuildRequest → List Requirement
  | .scope => plan.scopeRequirements
  | .clause request => plan.scopeRequirements ++ plan.clauseRequirements request
  | .statement request => plan.statementRequirements request
  | .batches rows => plan.scopeRequirements ++ plan.batchesRequirements rows
  | .statements (.inserts rows) => plan.inBatches rows .insert
  | .statements (.updateMany records) => plan.inBatches records .updateBatch

end Plan

end EntityQuery

import EntityQuery.Statement.Update
import EntityQuery.Proofs.Plan.Related

/-!
# Requests for statements

A plan gives seven kinds of single statements, some of them with rows or a source of rows.  A
request names one of them with its data, so that what holds of every statement is said once.  No
statement but SELECT contains all parts of the plan.
-/

namespace EntityQuery

/-- A statement that a plan is asked for, with the data that it is given. -/
inductive StatementRequest
  | select
  | count
  | insert (rows : List Record)
  | insertFrom (source : InsertSource)
  | update (record : Record)
  | updateBatch (records : List Record)
  | delete

/-- The statement of the plan for a request. -/
def Plan.statement (plan : Plan) : StatementRequest → Except Error Statement
  | .select => plan.select
  | .count => plan.count
  | .insert rows => plan.insert rows
  | .insertFrom source => plan.insertFrom source
  | .update record => plan.update record
  | .updateBatch records => plan.updateBatch records
  | .delete => plan.delete

/-- Statements that a plan is asked for with all rows at once, and gives batch by batch. -/
inductive BatchRequest
  | inserts (rows : List Record)
  | updateMany (records : List Record)

/-- The statements of the plan for a request in batches. -/
def Plan.statements (plan : Plan) : BatchRequest → Except Error (List Statement)
  | .inserts rows => plan.inserts rows
  | .updateMany records => plan.updateMany records

/-- The fields of a list that a row has no value for. -/
def Record.lacking (row : Record) (fields : List Field) : Nat :=
  fields.countP fun field => !Record.has row field.name

/-- The fields of a list that rows have no values for, row by row. -/
def Record.lackingAll (fields : List Field) : List Record → Nat
  | [] => 0
  | row :: rest => Record.lacking row fields + Record.lackingAll fields rest

/-- The fields that rows lack of those that the first row names. -/
def Entity.lackingFields (entity : Entity) : List Record → Nat
  | [] => 0
  | first :: rest => Record.lackingAll (Plan.knownFields entity first) (first :: rest)

namespace StatementRequest

/-- Whether the statement contains a part of the plan. -/
def contains : StatementRequest → Plan.Part → Bool
  | .select, _ | .count, .joinClauses | .count, .filter => true
  | .insert _, .columns | .insertFrom _, .columns => true
  | .update _, .columns | .updateBatch _, .columns | .delete, .columns => true
  | .update _, .filter | .updateBatch _, .filter | .delete, .filter => true
  | _, _ => false

/-- The sum over the parts of the plan that the statement contains. -/
def total (request : StatementRequest) (weights : Plan.Part → Nat) : Nat :=
  Plan.Part.sum fun part => if request.contains part then weights part else 0

theorem total_mul (request : StatementRequest) (weights : Plan.Part → Nat) (factor : Nat) :
    request.total (fun part => weights part * factor) = request.total weights * factor := by
  unfold total
  rw [← Plan.Part.sum_mul]
  congr 1
  funext part
  split
  · rfl
  · rw [Nat.zero_mul]

/-- The fields that rows lack where the statement writes them. -/
def lackingFields (entity : Entity) : StatementRequest → Nat
  | .insert rows | .updateBatch rows => entity.lackingFields rows
  | _ => 0

end StatementRequest

/-- Records with the same keys in the same order, and related values under them. -/
def Record.Related (datum : Json → Json → Prop) (record other : Record) : Prop :=
  List.Forall₂ (fun entry twin => entry.1 = twin.1 ∧ datum entry.2 twin.2) record other

/-- Two sources of rows of the same shape. -/
inductive InsertSource.Related (relation : FragmentRelation) :
    Nat → InsertSource → InsertSource → Prop
  | query {weights : Plan.Part → Nat} {plan other : Plan} :
      Plan.Related relation weights plan other →
      InsertSource.Related relation (Plan.Part.sum weights) (.query plan) (.query other)
  | raw {weight : Nat} {first second : Fragment} : relation.related weight first second →
      InsertSource.Related relation weight (.raw first) (.raw second)

/-- Two requests for the same kind of statement, with related data.  Their weight is that of their
sources; fields that rows lack are counted on the rows. -/
inductive StatementRequest.Related (relation : FragmentRelation) :
    Nat → StatementRequest → StatementRequest → Prop
  | select : StatementRequest.Related relation 0 .select .select
  | count : StatementRequest.Related relation 0 .count .count
  | insert {rows others : List Record} :
      List.Forall₂ (Record.Related relation.datum) rows others →
      StatementRequest.Related relation 0 (.insert rows) (.insert others)
  | insertFrom {weight : Nat} {source other : InsertSource} :
      InsertSource.Related relation weight source other →
      StatementRequest.Related relation weight (.insertFrom source) (.insertFrom other)
  | update {record other : Record} : Record.Related relation.datum record other →
      StatementRequest.Related relation 0 (.update record) (.update other)
  | updateBatch {records others : List Record} :
      List.Forall₂ (Record.Related relation.datum) records others →
      StatementRequest.Related relation 0 (.updateBatch records) (.updateBatch others)
  | delete : StatementRequest.Related relation 0 .delete .delete

end EntityQuery

import EntityQuery.Proofs.Fragment.Blind
import EntityQuery.Proofs.Plan.Request

/-!
# Plans that differ in bound values

Two plans are alike when they differ only in the values that they bind: in literals, in the values
of raw fragments, and in the values of written rows.  How the values of the one go with those of
the other is left open; only an array must not take the place of anything else, or have another
length, since operand sets are written item by item.
-/

namespace EntityQuery

variable {related : Json → Json → Prop}

/-- The same text with as many values. -/
structure Fragment.Alike (related : Json → Json → Prop) (first second : Fragment) : Prop where
  text : first.text = second.text
  values : List.Forall₂ related first.values second.values

/-- Targets that differ in the values of a raw fragment. -/
inductive Target.Alike (related : Json → Json → Prop) : Target → Target → Prop
  | name (name : String) : Alike related (.name name) (.name name)
  | field (reference : FieldRef) : Alike related (.field reference) (.field reference)
  | raw {first second : Fragment} :
      Fragment.Alike related first second → Alike related (.raw first) (.raw second)

/-- Settings that differ in the targets of groupings and orderings. -/
structure PlanSettings.Alike (related : Json → Json → Prop) (first second : PlanSettings) :
    Prop where
  groupBy : List.Forall₂ (Target.Alike related) first.groupBy second.groupBy
  orderBy : List.Forall₂
    (fun one two => Target.Alike related one.target two.target ∧ one.direction = two.direction)
    first.orderBy second.orderBy
  others : second = { first with groupBy := second.groupBy, orderBy := second.orderBy }

mutual

/-- Expressions that differ in bound values. -/
inductive Expr.Alike (related : Json → Json → Prop) : Expr → Expr → Prop
  | value {first second : Json} : Json.Literal related first second →
      Expr.Alike related (.value first) (.value second)
  | list {items others : List Expr} : Expr.AllAlike related items others →
      Expr.Alike related (.list items) (.list others)
  | field (reference : FieldRef) : Expr.Alike related (.field reference) (.field reference)
  | column (name : String) : Expr.Alike related (.column name) (.column name)
  | subquery {plan other : Plan} : Plan.Alike related plan other →
      Expr.Alike related (.subquery plan) (.subquery other)
  | raw {first second : Fragment} : Fragment.Alike related first second →
      Expr.Alike related (.raw first) (.raw second)
  | condition {first second : Condition} : Condition.Alike related first second →
      Expr.Alike related (.condition first) (.condition second)
  | group (connective : Junction) {items others : List Expr} :
      Expr.AllAlike related items others →
      Expr.Alike related (.group connective items) (.group connective others)
  | unbound : Expr.Alike related .unbound .unbound

/-- Expressions that differ, one by one, in bound values. -/
inductive Expr.AllAlike (related : Json → Json → Prop) : List Expr → List Expr → Prop
  | nil : Expr.AllAlike related [] []
  | cons {first second : Expr} {rest tail : List Expr} : Expr.Alike related first second →
      Expr.AllAlike related rest tail → Expr.AllAlike related (first :: rest) (second :: tail)

/-- Conditions that differ in bound values. -/
inductive Condition.Alike (related : Json → Json → Prop) : Condition → Condition → Prop
  | nullTest (negated : Bool) {target other : Target} : Target.Alike related target other →
      Condition.Alike related (.nullTest negated target) (.nullTest negated other)
  | compare (comparison : Comparison) {target other : Target} {operand opposite : Expr} :
      Target.Alike related target other → Expr.Alike related operand opposite →
      Condition.Alike related (.compare comparison target operand)
        (.compare comparison other opposite)
  | between {target other : Target} {bounds opposite : Expr} : Target.Alike related target other →
      Expr.Alike related bounds opposite →
      Condition.Alike related (.between target bounds) (.between other opposite)
  | isIn {target other : Target} {choices opposite : Expr} : Target.Alike related target other →
      Expr.Alike related choices opposite →
      Condition.Alike related (.isIn target choices) (.isIn other opposite)
  | not {operand opposite : Expr} : Expr.Alike related operand opposite →
      Condition.Alike related (.not operand) (.not opposite)
  | exists {operand opposite : Expr} : Expr.Alike related operand opposite →
      Condition.Alike related (.exists operand) (.exists opposite)
  | quantified (quantifier : Quantifier) {target other : Option Target} {operand opposite : Expr} :
      Option.Rel (Target.Alike related) target other → Expr.Alike related operand opposite →
      Condition.Alike related (.quantified quantifier target operand)
        (.quantified quantifier other opposite)
  | junction (connective : Junction) {operand opposite : Expr} :
      Expr.Alike related operand opposite →
      Condition.Alike related (.junction connective operand) (.junction connective opposite)

/-- Columns that differ in bound values. -/
inductive ColumnSource.Alike (related : Json → Json → Prop) : ColumnSource → ColumnSource → Prop
  | field (name : String) : ColumnSource.Alike related (.field name) (.field name)
  | raw {first second : Fragment} : Fragment.Alike related first second →
      ColumnSource.Alike related (.raw first) (.raw second)
  | subquery {plan other : Plan} : Plan.Alike related plan other →
      ColumnSource.Alike related (.subquery plan) (.subquery other)

/-- Columns with the same names that differ, one by one, in bound values. -/
inductive Column.AllAlike (related : Json → Json → Prop) : List Column → List Column → Prop
  | nil : Column.AllAlike related [] []
  | cons (name : String) {source opposite : ColumnSource} {rest tail : List Column} :
      ColumnSource.Alike related source opposite → Column.AllAlike related rest tail →
      Column.AllAlike related (⟨name, source⟩ :: rest) (⟨name, opposite⟩ :: tail)

/-- Plans that differ in bound values. -/
inductive Plan.Alike (related : Json → Json → Prop) : Plan → Plan → Prop
  | mk (entity : Entity) (tableAlias : Option String) {columns fields : List Column}
      {filter restriction having condition : List Expr} {settings options : PlanSettings}
      {joins tables : List Join} : Column.AllAlike related columns fields →
      Expr.AllAlike related filter restriction → Expr.AllAlike related having condition →
      PlanSettings.Alike related settings options → Join.AllAlike related joins tables →
      Plan.Alike related ⟨entity, tableAlias, columns, filter, having, settings, joins⟩
        ⟨entity, tableAlias, fields, restriction, condition, options, tables⟩

/-- Joins that differ, one by one, in bound values. -/
inductive Join.AllAlike (related : Json → Json → Prop) : List Join → List Join → Prop
  | nil : Join.AllAlike related [] []
  | cons (kind : JoinKind) (name : Option String) (pairs : List (String × String))
      {plan other : Plan} {rest tail : List Join} : Plan.Alike related plan other →
      Join.AllAlike related rest tail →
      Join.AllAlike related (⟨kind, plan, name, pairs⟩ :: rest) (⟨kind, other, name, pairs⟩ :: tail)

end

/-- Requests that differ in the values of rows, or in bound values of their source. -/
inductive StatementRequest.Alike (related : Json → Json → Prop) :
    StatementRequest → StatementRequest → Prop
  | select : StatementRequest.Alike related .select .select
  | count : StatementRequest.Alike related .count .count
  | insert {rows others : List Record} : List.Forall₂ (Record.Related related) rows others →
      StatementRequest.Alike related (.insert rows) (.insert others)
  | insertQuery {plan other : Plan} : Plan.Alike related plan other →
      StatementRequest.Alike related (.insertFrom (.query plan)) (.insertFrom (.query other))
  | insertRaw {first second : Fragment} : Fragment.Alike related first second →
      StatementRequest.Alike related (.insertFrom (.raw first)) (.insertFrom (.raw second))
  | update {record other : Record} : Record.Related related record other →
      StatementRequest.Alike related (.update record) (.update other)
  | updateBatch {records others : List Record} :
      List.Forall₂ (Record.Related related) records others →
      StatementRequest.Alike related (.updateBatch records) (.updateBatch others)
  | delete : StatementRequest.Alike related .delete .delete

/-- Requests in batches that differ in the values of rows. -/
inductive BatchRequest.Alike (related : Json → Json → Prop) : BatchRequest → BatchRequest → Prop
  | inserts {rows others : List Record} : List.Forall₂ (Record.Related related) rows others →
      BatchRequest.Alike related (.inserts rows) (.inserts others)
  | updateMany {records others : List Record} :
      List.Forall₂ (Record.Related related) records others →
      BatchRequest.Alike related (.updateMany records) (.updateMany others)

/-- Statements with the same text and the same aliases, and with corresponding values. -/
structure Statement.Alike (related : Json → Json → Prop) (first second : Statement) : Prop where
  sql : first.sql = second.sql
  aliases : first.aliases = second.aliases
  values : List.Forall₂ (Json.Corresponds related) first.values second.values

end EntityQuery

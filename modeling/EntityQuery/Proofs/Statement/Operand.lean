import EntityQuery.Proofs.Outcome
import EntityQuery.Statement.Update

/-!
# Equations of formatting

Ranges and membership tests take lists and arrays apart; any other operand is one fragment, which
membership tests and quantifiers put in parentheses unless it brings its own.  A join is known by
its names and key equations before anything of its query is formatted.  The equations here say so
for each kind of condition and for joins, so that nothing else has to look into their formatting.
-/

namespace EntityQuery

open Outcome

namespace Scope

theorem qualified_of_column {scope : Scope} {name text : String}
    (resolved : scope.column name = .ok text) : ∃ qualifier column : Ident,
      text = Ident.qualified qualifier column := by
  simp only [column, bind_eq_ok, pure_eq_ok] at resolved
  obtain ⟨field, -, qualifier, -, rfl⟩ := resolved
  exact ⟨qualifier, field.column, rfl⟩

theorem qualified_of_fieldColumn {scope : Scope} {reference : FieldRef} {text : String}
    (resolved : scope.fieldColumn reference = .ok text) : ∃ qualifier column : Ident,
      text = Ident.qualified qualifier column := by
  unfold fieldColumn at resolved
  split at resolved
  case isTrue => exact qualified_of_column resolved
  case isFalse =>
      simp only [bind_eq_ok, pure_eq_ok] at resolved
      obtain ⟨table, -, rfl⟩ := resolved
      exact ⟨table, reference.field.column, rfl⟩

end Scope

namespace Expr

/-- Whether a range or a membership test takes the operand apart. -/
def isOperandSet : Expr → Bool
  | .list _ | .value (.array _) => true
  | _ => false

/-- Whether AND and OR take the operand apart. -/
def isList : Expr → Bool
  | .list _ => true
  | _ => false

/-- Whether the operand brings its own parentheses, or is written by the caller as it is. -/
def isEnclosed : Expr → Bool
  | .subquery _ | .raw _ => true
  | _ => false

/-- The fragment of an operand in parentheses, unless the operand brings its own. -/
def enclose (operand : Expr) (fragment : Fragment) : Fragment :=
  if operand.isEnclosed then fragment else fragment.parenthesized

theorem formatAll_map_value {scope : Scope} (values : List Json) :
    formatAll scope (values.map .value) = .ok (values.map .bound) := by
  induction values with
  | nil => rfl
  | cons value rest ih =>
      rw [List.map_cons, formatAll, ih]
      rfl

end Expr

namespace Condition

variable {scope : Scope} {target : Target}

theorem format_between_of_single {bounds : Expr} (single : bounds.isOperandSet = false) :
    (between target bounds).format scope = do
      let target ← target.format scope
      let bounds ← bounds.format scope
      return target ++ infixKeyword .between ++ bounds := by
  cases bounds with
  | list items => simp [Expr.isOperandSet] at single
  | value held => cases held <;> first | rfl | simp [Expr.isOperandSet] at single
  | _ => rfl

theorem format_between_array (items : List Json) :
    (between target (.value (.array items))).format scope = do
      let target ← target.format scope
      return target ++ infixKeyword .between ++ rangeBounds (items.map .bound) :=
  rfl

theorem format_between_nil :
    (between target (.list [])).format scope = do
      let target ← target.format scope
      return target ++ infixKeyword .between ++ rangeBounds [] :=
  rfl

theorem format_between_one (low : Expr) :
    (between target (.list [low])).format scope = do
      let target ← target.format scope
      let low ← low.format scope
      return target ++ infixKeyword .between ++ rangeBounds [low] :=
  rfl

/-- Bounds past the second are not even formatted. -/
theorem format_between_two (low high : Expr) (rest : List Expr) :
    (between target (.list (low :: high :: rest))).format scope = do
      let target ← target.format scope
      let low ← low.format scope
      let high ← high.format scope
      return target ++ infixKeyword .between ++ rangeBounds [low, high] :=
  rfl

theorem format_isIn_of_single {choices : Expr} (single : choices.isOperandSet = false) :
    (isIn target choices).format scope = do
      let target ← target.format scope
      let shown ← choices.format scope
      return target ++ infixKeyword .isIn ++ choices.enclose shown := by
  cases choices with
  | list items => simp [Expr.isOperandSet] at single
  | value held => cases held <;> first | rfl | simp [Expr.isOperandSet] at single
  | subquery plan =>
      change (target.format scope >>= _) = _
      congr 1
      funext shown
      change (plan.select >>= _) = ((plan.select >>= _) >>= _)
      cases plan.select <;> rfl
  | _ => rfl

theorem format_isIn_list (items : List Expr) :
    (isIn target (.list items)).format scope = do
      let target ← target.format scope
      let parts ← Expr.formatAll scope items
      return target ++ infixKeyword .isIn ++ operandSet parts :=
  rfl

theorem format_isIn_array (items : List Json) :
    (isIn target (.value (.array items))).format scope = do
      let target ← target.format scope
      return target ++ infixKeyword .isIn ++ operandSet (items.map .bound) :=
  rfl

theorem format_quantified (quantifier : Quantifier) (target : Option Target) (operand : Expr) :
    (quantified quantifier target operand).format scope = do
      let target ← quantifiedTarget scope target
      let shown ← operand.format scope
      return target ++ leadingKeyword (.quantified quantifier) ++ operand.enclose shown := by
  cases operand with
  | subquery plan =>
      change (quantifiedTarget scope target >>= _) = _
      congr 1
      funext shown
      change (plan.select >>= _) = ((plan.select >>= _) >>= _)
      cases plan.select <;> rfl
  | _ => rfl

theorem format_junction_list (connective : Junction) (items : List Expr) :
    (junction connective (.list items)).format scope = do
      let parts ← Expr.formatAll scope items
      return connective.combine parts :=
  rfl

theorem format_junction_of_single {connective : Junction} {operand : Expr}
    (single : operand.isList = false) :
    (junction connective operand).format scope = do
      let part ← operand.format scope
      return connective.combine [part] := by
  cases operand with
  | list items => simp [Expr.isList] at single
  | _ => rfl

end Condition

/-- What is known of a join before its filter and columns are formatted. -/
structure JoinHead where
  table : Ident
  source : String
  name : String
  joinAlias : Ident
  keys : List Fragment

namespace JoinHead

/-- The scope of the joined query. -/
def scope (head : JoinHead) (joined : Entity) : Scope := ⟨joined, some head.joinAlias⟩

/-- The names and key equations of a join. -/
def resolve (owner : Scope) (joined : Entity) (tableAlias name : Option String)
    (pairs : List (String × String)) : Except Error JoinHead := do
  let table ← joined.requireTable
  let joinName := (name.orElse fun _ => tableAlias).getD table.name
  let joinAlias ← (Ident.ofName joinName).mapError fun fault =>
    .validation (.name owner.entity.name .joinAlias fault)
  let pairs ← JoinedTable.resolvePairs owner.entity joined pairs
  let source ← joined.qualifiedTable
  let keys ← pairs.mapM (JoinedTable.keyEquation owner ⟨joined, some joinAlias⟩)
  return ⟨table, source, joinName, joinAlias, keys⟩

end JoinHead

theorem Join.format_eq (owner : Scope) (kind : JoinKind) (joined : Entity)
    (tableAlias name : Option String) (columns : List Column) (filter having : List Expr)
    (settings : PlanSettings) (joins : List Join) (pairs : List (String × String)) :
    (Join.mk kind ⟨joined, tableAlias, columns, filter, having, settings, joins⟩ name
      pairs).format owner = do
      let head ← JoinHead.resolve owner joined tableAlias name pairs
      let filter ← Expr.formatAll (head.scope joined) filter
      let columns ← Column.formatAll (head.scope joined) (some head.name) columns
      return ⟨JoinedTable.joinClause kind head.table head.source head.joinAlias head.keys filter,
        columns⟩ := by
  simp only [format, JoinHead.resolve, JoinHead.scope, bind_assoc, pure_bind]
  congr 1
  funext table
  cases Ident.ofName ((name.orElse fun _ => tableAlias).getD table.name) <;> rfl

namespace Plan

/-- The condition on the rows that a record updates: the filter of the plan, or else the primary key
of the record. -/
def updateFilter (plan : Plan) (scope : Scope) (record : Record) : Except Error Fragment :=
  if plan.filter.isEmpty then plan.primaryFilter scope record else plan.whereClause scope

/-- A record that carries all of the primary key is found by equations of its fields. -/
theorem primaryFilter_of_carried {plan : Plan} {record : Record}
    (keyed : plan.entity.primaryFields ≠ [])
    (carried : ∀ field ∈ plan.entity.primaryFields, record.has field.name = true)
    (scope : Scope) :
    plan.primaryFilter scope record = do
      let condition ← (Grouping.equalsAll (plan.entity.primaryFields.map fun field =>
        (field.name, match record.find? field.name with
          | some value => .value value
          | none => .unbound))).toExpr.format scope
      return .ofText "WHERE " ++ condition := by
  have complete : (plan.entity.primaryFields.isEmpty ||
      !plan.entity.primaryFields.all fun field => Record.has record field.name) = false := by
    simpa [keyed] using carried
  unfold primaryFilter
  dsimp only
  exact (if_neg (by simp [complete])).trans rfl

theorem update_eq (plan : Plan) (record : Record) :
    plan.update record = do
      let scope ← plan.scope
      if (assignments plan.entity record).isEmpty then
        .error (.validation (.rows plan.entity.name .noFieldsToUpdate))
      else do
        let source ← scope.source
        let filter ← plan.updateFilter scope record
        let returned ← plan.outputColumns scope
        return .ofFragment
          (.clauses
            [.ofText ("UPDATE " ++ source ++ " SET ") ++
                .joined ", " ((assignments plan.entity record).map assignment),
              filter, returningClause returned])
          (OutputColumn.aliases returned) := by
  unfold update updateFilter
  congr 1
  funext scope
  by_cases unassigned : (assignments plan.entity record).isEmpty
  · simp only [unassigned, if_true]
    rfl
  · by_cases unfiltered : plan.filter.isEmpty <;> simp [unassigned, unfiltered]

end Plan

end EntityQuery

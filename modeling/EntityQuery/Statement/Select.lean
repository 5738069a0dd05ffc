import EntityQuery.Clause

/-!
# SELECT statements

Formatting walks the tree of a plan once.  Each node gives a fragment whose values follow its
placeholders; conditions, groups and lists share the scope of their query, while a nested query is
formatted in a scope of its own.
-/

namespace EntityQuery

/-- The items of an operand set in parentheses; no items are written as one bound null. -/
def operandSet (items : List Fragment) : Fragment :=
  (if items.isEmpty then Fragment.bound .null else .joined ", " items).parenthesized

/-- Both bounds of a range; a missing one becomes a placeholder without value. -/
def rangeBounds (items : List Fragment) : Fragment :=
  let low := items.head?.getD .unbound
  let high := (items.drop 1).head?.getD .unbound
  low ++ .ofText " AND " ++ high

/-- A list that stands as one operand: bound values travel as one array, anything else makes a
row. -/
def rowOperand (items : List Expr) (parts : List Fragment) : Fragment :=
  match Expr.values? items with
  | some values => .bound (.array values)
  | none => (Fragment.joined ", " parts).parenthesized

/-- The text between a target and an operand. -/
def infixKeyword (operator : Operator) : Fragment := .ofText (" " ++ operator.keyword ++ " ")

/-- An operator in front of its operand. -/
def leadingKeyword (operator : Operator) : Fragment := .ofText (operator.keyword ++ " ")

/-- The target of a quantified condition, before an equals sign unless it has no text. -/
def quantifiedTarget (scope : Scope) : Option Target → Except Error Fragment
  | none => .ok .empty
  | some target => do
      let fragment ← target.format scope
      return if fragment.isEmpty then fragment else fragment ++ .ofText " = "

mutual

def Expr.format (scope : Scope) : Expr → Except Error Fragment
  | .value value => .ok (.bound value)
  | .list items => return rowOperand items (← Expr.formatAll scope items)
  | .field reference => return .ofText (← scope.fieldColumn reference)
  | .column name => return .ofText (← scope.column name)
  | .subquery plan => return (← plan.select).toFragment.parenthesized
  | .raw fragment => .ok fragment
  | .condition condition => condition.format scope
  | .group connective items => return connective.combine (← Expr.formatAll scope items)
  | .unbound => .ok .unbound

def Expr.formatAll (scope : Scope) : List Expr → Except Error (List Fragment)
  | [] => .ok []
  | item :: rest => return (← item.format scope) :: (← Expr.formatAll scope rest)

def Condition.format (scope : Scope) : Condition → Except Error Fragment
  | .nullTest negated target => do
      let target ← target.format scope
      return target ++ .ofText (" " ++ (Operator.nullTest negated).keyword)
  | .compare comparison target operand => do
      let target ← target.format scope
      let operand ← operand.format scope
      return target ++ infixKeyword (.compare comparison) ++ operand
  | .between target bounds => do
      let target ← target.format scope
      let bounds ← match bounds with
        | .list [] => pure (rangeBounds [])
        | .list [low] => pure (rangeBounds [← low.format scope])
        | .list (low :: high :: _) =>
            pure (rangeBounds [← low.format scope, ← high.format scope])
        | .value (.array items) => pure (rangeBounds (items.map .bound))
        | bounds => bounds.format scope
      return target ++ infixKeyword .between ++ bounds
  | .isIn target choices => do
      let target ← target.format scope
      let choices ← match choices with
        | .list items => pure (operandSet (← Expr.formatAll scope items))
        | .value (.array items) => pure (operandSet (items.map .bound))
        | .subquery plan => pure (← plan.select).toFragment.parenthesized
        | .raw fragment => pure fragment
        | choices => pure (← choices.format scope).parenthesized
      return target ++ infixKeyword .isIn ++ choices
  | .not operand => return leadingKeyword .not ++ (← operand.format scope)
  | .exists operand => return leadingKeyword .exists ++ (← operand.format scope)
  | .quantified quantifier target operand => do
      let target ← quantifiedTarget scope target
      let operand ← match operand with
        | .subquery plan => pure (← plan.select).toFragment.parenthesized
        | .raw fragment => pure fragment
        | operand => pure (← operand.format scope).parenthesized
      return target ++ leadingKeyword (.quantified quantifier) ++ operand
  | .junction connective operand => do
      let parts ← match operand with
        | .list items => Expr.formatAll scope items
        | operand => pure [← operand.format scope]
      return connective.combine parts

/-- The fragment of what a column reads from. -/
def ColumnSource.format (scope : Scope) : ColumnSource → Except Error Fragment
  | .field name => return .ofText (← scope.column name)
  | .raw fragment => .ok fragment
  | .subquery plan => return (← plan.select).toFragment.parenthesized

/-- A column under its name, which for a joined column stands after the name of the join. -/
def Column.format (scope : Scope) (join : Option String) : Column → Except Error OutputColumn
  | ⟨name, source⟩ => do
      let outputAlias := match join with
        | some join => join ++ "." ++ name
        | none => name
      OutputColumn.ofSource scope outputAlias source (← source.format scope)

def Column.formatAll (scope : Scope) (join : Option String) :
    List Column → Except Error (List OutputColumn)
  | [] => .ok []
  | column :: rest =>
      return (← column.format scope join) :: (← Column.formatAll scope join rest)

/-- A join to the query of the given scope. -/
def Join.format (owner : Scope) : Join → Except Error JoinedTable
  | ⟨kind, ⟨joined, tableAlias, columns, filter, _, _, _⟩, name, pairs⟩ => do
      let table ← joined.requireTable
      let joinName := (name.orElse fun _ => tableAlias).getD table.name
      let joinAlias ← match Ident.ofName joinName with
        | .ok ident => pure ident
        | .error fault => throw (.validation (.name owner.entity.name .joinAlias fault))
      let scope : Scope := ⟨joined, some joinAlias⟩
      let pairs ← JoinedTable.resolvePairs owner.entity joined pairs
      let source ← joined.qualifiedTable
      let keys ← pairs.mapM (JoinedTable.keyEquation owner scope)
      let filter ← Expr.formatAll scope filter
      let columns ← Column.formatAll scope (some joinName) columns
      return ⟨JoinedTable.joinClause kind table source joinAlias keys filter, columns⟩

def Join.formatAll (owner : Scope) : List Join → Except Error (List JoinedTable)
  | [] => .ok []
  | join :: rest => return (← join.format owner) :: (← Join.formatAll owner rest)

def Plan.select : Plan → Except Error Statement
  | ⟨entity, tableAlias, columns, filter, having, settings, joins⟩ => do
      let scope ← Scope.ofNames entity tableAlias
      let own ← Column.formatAll scope none columns
      let joined ← Join.formatAll scope joins
      let source ← scope.source
      let filter ← Expr.formatAll scope filter
      let groupBy ← Clause.groupBy scope settings
      let having ← Expr.formatAll scope having
      let orderBy ← Clause.orderBy scope settings
      let locking ← Clause.locking settings.locking
      let selected := own ++ JoinedTable.allColumns joined
      let distinct := if settings.distinct then "DISTINCT " else ""
      let fragment := Fragment.clauses
        [.ofText ("SELECT " ++ distinct) ++ OutputColumn.list selected,
          .ofText ("FROM " ++ source),
          JoinedTable.clauses joined,
          Clause.predicate "WHERE " filter,
          groupBy,
          Clause.predicate "HAVING " having,
          orderBy,
          .ofText (Clause.limit settings),
          .ofText (Clause.offset settings),
          .ofText locking]
      return .ofFragment fragment (OutputColumn.aliases selected)

end

end EntityQuery

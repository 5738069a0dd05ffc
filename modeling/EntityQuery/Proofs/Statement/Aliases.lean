import EntityQuery.Proofs.Entity.Names
import EntityQuery.Proofs.Statement.Parts

/-!
# Aliases of a SELECT

A SELECT has one alias for each of its columns: those of the plan under their own names, and then,
join by join, those of the joined plans behind the name of their join and a dot.
-/

namespace EntityQuery

open Outcome

/-- The alias of a column, which inside a join stands behind the name of the join. -/
def Column.aliasIn (join : Option String) (column : Column) : String :=
  match join with
  | some join => join ++ "." ++ column.name
  | none => column.name

/-- The name that a join goes by: its own, else the alias of the joined plan, else the table. -/
def Join.shownName (join : Join) : String :=
  (join.name.orElse fun _ => join.plan.tableAlias).getD
    ((join.plan.entity.table.map Ident.name).getD "")

/-- The aliases of the columns that a join selects. -/
def Join.aliases (join : Join) : List String :=
  join.plan.columns.map (Column.aliasIn (some join.shownName))

@[simp]
theorem OutputColumn.aliases_append (first second : List OutputColumn) :
    OutputColumn.aliases (first ++ second) =
      OutputColumn.aliases first ++ OutputColumn.aliases second :=
  List.map_append

theorem OutputColumn.outputAlias_of_ofSource {scope : Scope} {outputAlias : String}
    {source : ColumnSource} {fragment : Fragment} {column : OutputColumn}
    (formatted : OutputColumn.ofSource scope outputAlias source fragment = .ok column) :
    column.outputAlias = outputAlias := by
  unfold ofSource at formatted
  dsimp only at formatted
  split_ifs at formatted
  · rw [← Except.ok.inj formatted]
  · cases named : Ident.ofName outputAlias with
    | ok ident =>
        rw [named] at formatted
        rw [← Except.ok.inj formatted]
    | error fault =>
        rw [named] at formatted
        exact nomatch formatted

theorem Column.outputAlias_of_format {scope : Scope} {join : Option String} {column : Column}
    {shown : OutputColumn} (formatted : column.format scope join = .ok shown) :
    shown.outputAlias = column.aliasIn join := by
  obtain ⟨name, source⟩ := column
  unfold Column.format at formatted
  obtain ⟨fragment, -, given⟩ := bind_eq_ok.1 formatted
  cases join <;> exact OutputColumn.outputAlias_of_ofSource given

theorem Column.aliases_of_formatAll {scope : Scope} {join : Option String} {columns : List Column}
    {shown : List OutputColumn} (formatted : Column.formatAll scope join columns = .ok shown) :
    OutputColumn.aliases shown = columns.map (Column.aliasIn join) := by
  induction columns generalizing shown with
  | nil =>
      obtain rfl := Except.ok.inj formatted
      rfl
  | cons column rest ih =>
      unfold Column.formatAll at formatted
      obtain ⟨first, firstShown, more⟩ := bind_eq_ok.1 formatted
      obtain ⟨others, othersShown, whole⟩ := bind_eq_ok.1 more
      obtain rfl := pure_eq_ok.1 whole
      rw [List.map_cons, ← Column.outputAlias_of_format firstShown, ← ih othersShown]
      rfl

/-- A join that can be resolved has the name that it goes by. -/
theorem JoinHead.name_of_resolve {owner : Scope} {join : Join} {head : JoinHead}
    (resolved : JoinHead.resolve owner join.plan.entity join.plan.tableAlias join.name join.pairs =
      .ok head) : head.name = join.shownName := by
  unfold resolve at resolved
  obtain ⟨table, required, named⟩ := bind_eq_ok.1 resolved
  obtain ⟨joinAlias, -, paired⟩ := bind_eq_ok.1 named
  obtain ⟨pairs, -, sourced⟩ := bind_eq_ok.1 paired
  obtain ⟨source, -, keyed⟩ := bind_eq_ok.1 sourced
  obtain ⟨keys, -, whole⟩ := bind_eq_ok.1 keyed
  rw [← pure_eq_ok.1 whole, Join.shownName, Entity.requireTable_eq_ok.1 required]
  rfl

theorem JoinHead.joinAlias_of_resolve {owner : Scope} {entity : Entity}
    {tableAlias name : Option String} {pairs : List (String × String)} {head : JoinHead}
    (resolved : resolve owner entity tableAlias name pairs = .ok head) :
    head.joinAlias.name = head.name := by
  unfold resolve at resolved
  obtain ⟨table, -, named⟩ := bind_eq_ok.1 resolved
  obtain ⟨joinAlias, made, paired⟩ := bind_eq_ok.1 named
  obtain ⟨_, -, sourced⟩ := bind_eq_ok.1 paired
  obtain ⟨_, -, keyed⟩ := bind_eq_ok.1 sourced
  obtain ⟨_, -, whole⟩ := bind_eq_ok.1 keyed
  rw [← pure_eq_ok.1 whole]
  exact Ident.name_of_ofName (mapError_eq_ok.1 made)

theorem Join.aliases_of_format {owner : Scope} {join : Join} {joined : JoinedTable}
    (formatted : join.format owner = .ok joined) :
    OutputColumn.aliases joined.columns = join.aliases := by
  obtain ⟨kind, ⟨entity, tableAlias, columns, filter, having, settings, joins⟩, name, pairs⟩ := join
  rw [Join.format_eq] at formatted
  obtain ⟨head, resolved, filtered⟩ := bind_eq_ok.1 formatted
  obtain ⟨_, -, selected⟩ := bind_eq_ok.1 filtered
  obtain ⟨shown, shownColumns, whole⟩ := bind_eq_ok.1 selected
  have named : head.name = Join.shownName
      ⟨kind, ⟨entity, tableAlias, columns, filter, having, settings, joins⟩, name, pairs⟩ :=
    JoinHead.name_of_resolve resolved
  rw [← pure_eq_ok.1 whole, Join.aliases, ← named]
  exact Column.aliases_of_formatAll shownColumns

theorem Join.aliases_of_formatAll {owner : Scope} {joins : List Join} {joined : List JoinedTable}
    (formatted : Join.formatAll owner joins = .ok joined) :
    OutputColumn.aliases (JoinedTable.allColumns joined) = joins.flatMap Join.aliases := by
  induction joins generalizing joined with
  | nil =>
      obtain rfl := Except.ok.inj formatted
      rfl
  | cons join rest ih =>
      unfold Join.formatAll at formatted
      obtain ⟨first, firstShown, more⟩ := bind_eq_ok.1 formatted
      obtain ⟨others, othersShown, whole⟩ := bind_eq_ok.1 more
      obtain rfl := pure_eq_ok.1 whole
      rw [JoinedTable.allColumns, List.flatMap_cons, List.flatMap_cons,
        OutputColumn.aliases_append, Join.aliases_of_format firstShown]
      exact congrArg _ (ih othersShown)

/-- What a SELECT is made of: its columns, and its conditions among other clauses. -/
theorem Plan.clauses_of_select {plan : Plan} {statement : Statement}
    (selected : plan.select = .ok statement) :
    ∃ scope own joined filter having before between after,
      plan.scope = .ok scope ∧
      Column.formatAll scope none plan.columns = .ok own ∧
      Join.formatAll scope plan.joins = .ok joined ∧
      Expr.formatAll scope plan.filter = .ok filter ∧
      Expr.formatAll scope plan.having = .ok having ∧
      statement.sql = (Fragment.clauses (before ++ Clause.predicate "WHERE " filter ::
        (between ++ Clause.predicate "HAVING " having :: after))).text ∧
      statement.aliases = OutputColumn.aliases (own ++ JoinedTable.allColumns joined) := by
  obtain ⟨scope, own, joined, source, items, groups, rest, order, locking, resolved, ownShown,
    joinedShown, -, itemsShown, -, restShown, -, -, rfl⟩ := select_eq_ok.1 selected
  exact ⟨scope, own, joined, items, rest, [_, _, _], [_], _, resolved, ownShown, joinedShown,
    itemsShown, restShown, rfl, rfl⟩

theorem Plan.aliases_of_select {plan : Plan} {statement : Statement}
    (selected : plan.select = .ok statement) :
    statement.aliases = plan.columns.map Column.name ++ plan.joins.flatMap Join.aliases := by
  obtain ⟨scope, own, joined, _, _, _, _, _, -, ownShown, joinedShown, -, -, -, aliased⟩ :=
    clauses_of_select selected
  rw [aliased, OutputColumn.aliases_append, Column.aliases_of_formatAll ownShown,
    Join.aliases_of_formatAll joinedShown]
  rfl

end EntityQuery

import EntityQuery.Proofs.Fragment.Separating
import EntityQuery.Proofs.Plan.Request
import EntityQuery.Proofs.Query.Planning
import EntityQuery.Proofs.Statement.Aliases
import EntityQuery.Proofs.Execution.Fetching

/-!
# Listed columns

Rows come back by position, so the list after SELECT or RETURNING must have one item for each alias,
in the same order.  Each item shows one column and, unless it is the field of that name, the alias
of the column; as no item is without text, none is left out of the list.  The columns are those that
the query selects, and behind them those of the queries that are joined when rows are read.
-/

namespace EntityQuery

open Outcome

/-- How what a column reads from is written in a scope. -/
inductive ColumnSource.Shows (scope : Scope) : ColumnSource → Fragment → Prop
  | field {name : String} {field : Field} {qualifier : Ident} :
      scope.entity.field? name = some field → scope.qualifier = .ok qualifier →
      Shows scope (.field name) (.ofText (qualifier.qualified field.column))
  | raw (fragment : Fragment) : Shows scope (.raw fragment) fragment
  | subquery {plan : Plan} {statement : Statement} : plan.select = .ok statement →
      Shows scope (.subquery plan) statement.toFragment.parenthesized

/-- The items that a column is listed as under an alias. -/
inductive Column.Lists (scope : Scope) (outputAlias : String) (column : Column) : Fragment → Prop
  | bare {shown : Fragment} : column.source = .field outputAlias →
      column.source.Shows scope shown → Lists scope outputAlias column shown
  | labelled {shown : Fragment} {label : Ident} : column.source ≠ .field outputAlias →
      column.source.Shows scope shown → label.name = outputAlias →
      Lists scope outputAlias column (shown ++ .ofText (" AS " ++ label.toSql))

/-- A column of the rows that a statement gives, with the join that it is selected from. -/
structure ResultColumn where
  join : Option Join
  column : Column

/-- Columns of the plan are read in its scope, joined columns in that of their join. -/
inductive Plan.ReadsIn (plan : Plan) : Option Join → Scope → Prop
  | own {scope : Scope} : plan.scope = .ok scope → ReadsIn plan none scope
  | joined {join : Join} {joinAlias : Ident} : joinAlias.name = join.shownName →
      ReadsIn plan (some join) ⟨join.plan.entity, some joinAlias⟩

namespace ResultColumn

/-- The alias of the column, behind the name of its join. -/
def outputAlias (result : ResultColumn) : String :=
  result.column.aliasIn (result.join.map Join.shownName)

/-- The column is listed as this item in statements of the plan. -/
def ListedAs (plan : Plan) (result : ResultColumn) (item : Fragment) : Prop :=
  ∃ scope, plan.ReadsIn result.join scope ∧ result.column.Lists scope result.outputAlias item

end ResultColumn

/-- The columns of the rows that a statement of the plan gives. -/
def Plan.resultColumns (plan : Plan) : StatementRequest → List ResultColumn
  | .count => []
  | .select => plan.columns.map (⟨none, ·⟩) ++
      plan.joins.flatMap fun join => join.plan.columns.map (⟨some join, ·⟩)
  | _ => plan.columns.map (⟨none, ·⟩)

/-- The statement writes rows, and gives columns of them back. -/
def StatementRequest.Writes : StatementRequest → Prop
  | .select | .count => False
  | .insert _ | .insertFrom _ | .update _ | .updateBatch _ | .delete => True

/-- The statement has the list between SELECT and FROM, or else behind RETURNING. -/
def StatementRequest.HasList (request : StatementRequest) (plan : Plan) (list : Fragment)
    (statement : Statement) : Prop :=
  match request with
  | .select => ∃ after, statement.toFragment =
      .ofText ("SELECT " ++ if plan.settings.distinct then "DISTINCT " else "") ++ list ++
        .ofText " FROM " ++ after
  | _ => ∃ before, statement.toFragment = before ++ .ofText " RETURNING " ++ list

/-- The statement lists items with text, one for each column, and has the aliases of the columns. -/
structure Plan.ListsColumns (plan : Plan) (request : StatementRequest) (statement : Statement)
    (items : List Fragment) : Prop where
  written : request.HasList plan (.intercalate ", " items) statement
  shown : ∀ item ∈ items, item.text ≠ ""
  counted : items.length = statement.aliases.length
  listed : List.Forall₂ (ResultColumn.ListedAs plan) (plan.resultColumns request) items
  aliased : statement.aliases = (plan.resultColumns request).map ResultColumn.outputAlias

section Items

variable {scope : Scope}

theorem ColumnSource.shows_of_format {source : ColumnSource} {shown : Fragment}
    (formatted : source.format scope = .ok shown) : source.Shows scope shown := by
  cases source with
  | field name =>
      simp only [format, Scope.column, bind_eq_ok, pure_eq_ok] at formatted
      obtain ⟨_, ⟨field, found, qualifier, qualified, rfl⟩, rfl⟩ := formatted
      exact .field (Entity.field_eq_ok.1 found) qualified
  | raw fragment =>
      obtain rfl := Except.ok.inj formatted
      exact .raw _
  | subquery plan =>
      simp only [format, bind_eq_ok, pure_eq_ok] at formatted
      obtain ⟨statement, selected, rfl⟩ := formatted
      exact .subquery selected

theorem ColumnSource.Shows.text_ne_empty {source : ColumnSource} {shown : Fragment}
    (sourceShown : source.Shows scope shown) (notRaw : ∀ fragment, source ≠ .raw fragment) :
    shown.text ≠ "" := by
  cases sourceShown with
  | field => simp [Ident.qualified]
  | raw => exact absurd rfl (notRaw shown)
  | subquery => simp [Fragment.parenthesized]

/-- Even a raw column without text of its own is listed with its alias. -/
theorem Column.Lists.text_ne_empty {outputAlias : String} {column : Column} {item : Fragment}
    (lists : column.Lists scope outputAlias item) : item.text ≠ "" := by
  cases lists with
  | bare own sourceShown => exact sourceShown.text_ne_empty (by simp [own])
  | labelled => simp

theorem OutputColumn.lists_of_ofSource {outputAlias : String} {column : Column} {shown : Fragment}
    {listed : OutputColumn} (sourceShown : column.source.Shows scope shown)
    (formatted : OutputColumn.ofSource scope outputAlias column.source shown = .ok listed) :
    column.Lists scope outputAlias listed.fragment := by
  by_cases own : column.source = .field outputAlias
  · have bare : OutputColumn.ofSource scope outputAlias column.source shown =
        .ok ⟨shown, outputAlias⟩ := by
      simp [ofSource, own]
    rw [← Except.ok.inj (bare.symm.trans formatted)]
    exact .bare own sourceShown
  · -- Any other source is labelled as a raw one is.
    have labelled : OutputColumn.ofSource scope outputAlias column.source shown =
        OutputColumn.ofSource scope outputAlias (.raw .empty) shown := by
      cases held : column.source with
      | field name =>
          have other : outputAlias ≠ name := by
            rintro rfl
            exact own held
          simp [ofSource, other]
      | raw => rfl
      | subquery => rfl
    rw [labelled] at formatted
    simp only [ofSource, Bool.false_eq_true, if_false] at formatted
    cases named : Ident.ofName outputAlias with
    | error fault =>
        rw [named] at formatted
        cases formatted
    | ok label =>
        rw [named] at formatted
        rw [← Except.ok.inj formatted]
        exact .labelled own sourceShown (Ident.name_of_ofName named)

theorem Column.lists_of_format {join : Option String} {column : Column} {listed : OutputColumn}
    (formatted : column.format scope join = .ok listed) :
    column.Lists scope (column.aliasIn join) listed.fragment := by
  obtain ⟨name, source⟩ := column
  unfold Column.format at formatted
  obtain ⟨fragment, shown, given⟩ := bind_eq_ok.1 formatted
  cases join <;>
    exact OutputColumn.lists_of_ofSource (ColumnSource.shows_of_format shown) given

theorem Column.lists_of_formatAll {join : Option String} {columns : List Column}
    {listed : List OutputColumn} (formatted : Column.formatAll scope join columns = .ok listed) :
    List.Forall₂ (fun column shown => column.Lists scope (column.aliasIn join) shown.fragment)
      columns listed := by
  induction columns generalizing listed with
  | nil =>
      obtain rfl := Except.ok.inj formatted
      exact .nil
  | cons column rest ih =>
      unfold Column.formatAll at formatted
      obtain ⟨first, firstShown, more⟩ := bind_eq_ok.1 formatted
      obtain ⟨others, othersShown, whole⟩ := bind_eq_ok.1 more
      obtain rfl := pure_eq_ok.1 whole
      exact .cons (lists_of_format firstShown) (ih othersShown)

end Items

section Columns

variable {plan : Plan}

theorem Plan.listed_own {scope : Scope} {shown : List OutputColumn}
    (resolved : plan.scope = .ok scope)
    (formatted : Column.formatAll scope none plan.columns = .ok shown) :
    List.Forall₂ (ResultColumn.ListedAs plan) (plan.columns.map (⟨none, ·⟩))
      (shown.map OutputColumn.fragment) := by
  rw [List.forall₂_map_left_iff, List.forall₂_map_right_iff]
  refine (Column.lists_of_formatAll formatted).imp fun column listed lists => ?_
  exact ⟨scope, .own resolved, lists⟩

theorem Plan.listed_join {owner : Scope} {join : Join} {joined : JoinedTable}
    (formatted : join.format owner = .ok joined) :
    List.Forall₂ (ResultColumn.ListedAs plan) (join.plan.columns.map (⟨some join, ·⟩))
      (joined.columns.map OutputColumn.fragment) := by
  rw [List.forall₂_map_left_iff, List.forall₂_map_right_iff]
  obtain ⟨kind, ⟨entity, tableAlias, columns, filter, having, settings, joins⟩, name, pairs⟩ := join
  rw [Join.format_eq] at formatted
  obtain ⟨head, resolved, filtered⟩ := bind_eq_ok.1 formatted
  obtain ⟨_, -, selected⟩ := bind_eq_ok.1 filtered
  obtain ⟨shown, shownColumns, whole⟩ := bind_eq_ok.1 selected
  have named : head.name = Join.shownName
      ⟨kind, ⟨entity, tableAlias, columns, filter, having, settings, joins⟩, name, pairs⟩ :=
    JoinHead.name_of_resolve resolved
  rw [← pure_eq_ok.1 whole]
  refine (Column.lists_of_formatAll shownColumns).imp fun column listed lists => ?_
  refine ⟨head.scope entity, .joined ((JoinHead.joinAlias_of_resolve resolved).trans named), ?_⟩
  rw [named] at lists
  exact lists

theorem Plan.listed_joins {owner : Scope} {joins : List Join} {joined : List JoinedTable}
    (formatted : Join.formatAll owner joins = .ok joined) :
    List.Forall₂ (ResultColumn.ListedAs plan)
      (joins.flatMap fun join => join.plan.columns.map (⟨some join, ·⟩))
      ((JoinedTable.allColumns joined).map OutputColumn.fragment) := by
  induction joins generalizing joined with
  | nil =>
      obtain rfl := Except.ok.inj formatted
      exact .nil
  | cons join rest ih =>
      unfold Join.formatAll at formatted
      obtain ⟨first, firstShown, more⟩ := bind_eq_ok.1 formatted
      obtain ⟨others, othersShown, whole⟩ := bind_eq_ok.1 more
      obtain rfl := pure_eq_ok.1 whole
      have later := ih othersShown
      unfold JoinedTable.allColumns at later ⊢
      rw [List.flatMap_cons, List.flatMap_cons, List.map_append]
      exact List.rel_append (listed_join firstShown) later

end Columns

namespace Plan

variable {plan : Plan} {statement : Statement}

theorem exists_before_returning {parts : List Fragment} (shown : ∃ part ∈ parts, part.text ≠ "")
    (returned : List OutputColumn) :
    ∃ before, Fragment.clauses (parts ++ [returningClause returned]) =
      before ++ .ofText " RETURNING " ++ OutputColumn.list returned := by
  refine ⟨Fragment.clauses parts, ?_⟩
  rw [Fragment.clauses_concat shown (by simp [returningClause]), returningClause,
    ← Fragment.append_assoc, Fragment.append_assoc (.clauses parts), ← Fragment.ofText_append]
  rfl

theorem exists_after_from {first : Fragment} (source : String) (rest : List Fragment)
    (shown : first.text ≠ "") :
    ∃ after, Fragment.clauses (first :: .ofText ("FROM " ++ source) :: rest) =
      first ++ .ofText " FROM " ++ after := by
  have sourceShown : (Fragment.ofText ("FROM " ++ source)).text ≠ "" := by simp
  obtain ⟨after, later⟩ := Fragment.exists_clauses_cons sourceShown rest
  refine ⟨.ofText source ++ after, ?_⟩
  have spaced : Fragment.clauses (first :: .ofText ("FROM " ++ source) :: rest) =
      first ++ .ofText " " ++ Fragment.clauses (.ofText ("FROM " ++ source) :: rest) := by
    have alone := Fragment.joined_singleton " " first shown
    have front : ∃ part ∈ [first], part.text ≠ "" := ⟨first, List.mem_singleton_self _, shown⟩
    have split :=
      Fragment.joined_append " " front ⟨_, List.mem_cons_self (l := rest), sourceShown⟩
    exact split.trans (congrArg (· ++ _ ++ _) alone)
  have keyword : Fragment.ofText " FROM " = .ofText " " ++ .ofText "FROM " := rfl
  rw [spaced, later, Fragment.ofText_append, keyword]
  simp only [Fragment.append_assoc]

/-- What holds of every item that lists a column holds of all items of a list. -/
theorem forall_of_listed {holds : Fragment → Prop}
    (each : ∀ {scope : Scope} {outputAlias : String} {column : Column} {item : Fragment},
      column.Lists scope outputAlias item → holds item)
    {results : List ResultColumn} {items : List Fragment}
    (listed : List.Forall₂ (ResultColumn.ListedAs plan) results items) :
    ∀ item ∈ items, holds item := by
  induction listed with
  | nil => exact fun _ nothing => nomatch nothing
  | cons first _ ih =>
      obtain ⟨scope, -, lists⟩ := first
      exact List.forall_mem_cons.2 ⟨each lists, ih⟩

theorem listsColumns {request : StatementRequest} (columns : List OutputColumn)
    (written : request.HasList plan (OutputColumn.list columns) statement)
    (listed : List.Forall₂ (ResultColumn.ListedAs plan) (plan.resultColumns request)
      (columns.map OutputColumn.fragment))
    (aliased : statement.aliases = (plan.resultColumns request).map ResultColumn.outputAlias) :
    plan.ListsColumns request statement (columns.map OutputColumn.fragment) := by
  have shown := forall_of_listed Column.Lists.text_ne_empty listed
  constructor
  · -- No item is left out of the list.
    rw [← Fragment.joined_eq_intercalate shown]
    exact written
  · exact shown
  · rw [aliased, List.length_map (f := ResultColumn.outputAlias)]
    exact listed.length_eq.symm
  · exact listed
  · exact aliased

/-- A statement with returned columns lists the columns of the plan behind RETURNING. -/
theorem exists_lists_of_writable {scope : Scope} {source : String} {returned : List OutputColumn}
    (parts : List Fragment) (writable : plan.Writable scope source returned)
    (shown : ∃ part ∈ parts, part.text ≠ "")
    (made : statement = .ofFragment (.clauses (parts ++ [returningClause returned]))
      (OutputColumn.aliases returned))
    {request : StatementRequest} (own : plan.resultColumns request = plan.columns.map (⟨none, ·⟩))
    (behind : ∀ list, (∃ before, statement.toFragment = before ++ .ofText " RETURNING " ++ list) →
      request.HasList plan list statement) :
    ∃ items, plan.ListsColumns request statement items := by
  have listed := listed_own writable.resolved writable.shown
  rw [← own] at listed
  refine ⟨_, listsColumns returned (behind _ ?_) listed ?_⟩
  · rw [made]
    exact exists_before_returning shown returned
  · rw [made, own, List.map_map]
    exact Column.aliases_of_formatAll writable.shown

/-- A statement that writes rows is put together from parts of its own and the returned columns. -/
theorem exists_writable {request : StatementRequest} (writes : request.Writes)
    (formatted : plan.statement request = .ok statement) :
    ∃ scope source returned parts, plan.Writable scope source returned ∧
      (∃ part ∈ parts, part.text ≠ "") ∧
      statement = .ofFragment (.clauses (parts ++ [returningClause returned]))
        (OutputColumn.aliases returned) := by
  cases request with
  | select | count => exact writes.elim
  | insert rows =>
      obtain ⟨row, rest, rfl, -, scope, source, returned, writable, made⟩ :=
        insert_eq_ok.1 formatted
      exact ⟨scope, source, returned, [_, _], writable, ⟨_, .head _, by simp⟩, made⟩
  | insertFrom source =>
      obtain ⟨scope, target, body, returned, writable, -, made⟩ := insertFrom_eq_ok.1 formatted
      exact ⟨scope, target, returned, [_, _], writable, ⟨_, .head _, by simp⟩, made⟩
  | update record =>
      obtain ⟨-, scope, source, filter, returned, writable, -, made⟩ := update_eq_ok.1 formatted
      exact ⟨scope, source, returned, [_, _], writable, ⟨_, .head _, by simp⟩, made⟩
  | updateBatch records =>
      obtain ⟨record, rest, rfl, -, scope, source, returned, qualifier, items, writable, -, -,
        made⟩ := updateBatch_eq_ok.1 formatted
      exact ⟨scope, source, returned, [_, _, _], writable, ⟨_, .head _, by simp⟩, made⟩
  | delete =>
      obtain ⟨scope, source, filter, returned, writable, -, made⟩ := delete_eq_ok.1 formatted
      exact ⟨scope, source, returned, [_, _], writable, ⟨_, .head _, by simp⟩, made⟩

/-- A statement that writes rows lists the columns of the plan behind RETURNING. -/
theorem exists_lists_of_writes {request : StatementRequest} (writes : request.Writes)
    (formatted : plan.statement request = .ok statement) :
    ∃ items, plan.ListsColumns request statement items := by
  obtain ⟨scope, source, returned, parts, writable, shown, made⟩ := exists_writable writes formatted
  cases request with
  | select | count => exact writes.elim
  | _ => exact exists_lists_of_writable parts writable shown made rfl fun _ => id

theorem exists_lists_of_select (selected : plan.select = .ok statement) :
    ∃ items, plan.ListsColumns .select statement items := by
  have aliased := aliases_of_select selected
  obtain ⟨scope, own, joined, source, filter, groups, having, order, locking, resolved, ownShown,
    joinedShown, -, -, -, -, -, -, rfl⟩ := select_eq_ok.1 selected
  refine ⟨_, listsColumns (own ++ JoinedTable.allColumns joined)
    (exists_after_from source _ (by simp)) ?_ ?_⟩
  · rw [List.map_append]
    exact List.rel_append (listed_own resolved ownShown) (listed_joins joinedShown)
  · rw [aliased]
    have joined (join : Join) : join.plan.columns.map
        (ResultColumn.outputAlias ∘ (⟨some join, ·⟩)) = join.aliases := rfl
    simp only [resultColumns, List.map_append, List.map_flatMap, List.map_map, joined]
    rfl

end Plan

namespace Query

/-- The columns are those of the query: first the ones that it selects itself and then, where rows
are read, those of its joins in order.  What a join takes from another query are the columns that
this one selects. -/
structure Gives (query : Query) (request : StatementRequest) (results : List ResultColumn) :
    Prop where
  listed : ∃ own, query.Selects own ∧
    results = own.map (⟨none, ·⟩) ++
      match request with
      | .select => query.joins.flatMap fun join => join.plan.columns.map (⟨some join, ·⟩)
      | _ => []
  joined : ∀ join ∈ query.joins, ∀ other : Query, join.plan = other.plan →
    other.Selects join.plan.columns

theorem gives_resultColumns (query : Query) {request : StatementRequest}
    (listing : request ≠ .count) : query.Gives request (query.plan.resultColumns request) where
  listed := by
    refine ⟨query.plan.columns, query.selects_plan, ?_⟩
    cases request with
    | select => rfl
    | count => exact absurd rfl listing
    | _ => exact (List.append_nil _).symm
  joined join _ other same := by
    rw [same]
    exact other.selects_plan

/-- Every statement of a query but COUNT lists the columns of the query, and has their aliases. -/
theorem lists_of_statement {query : Query} {request : StatementRequest} {statement : Statement}
    (listing : request ≠ .count) (formatted : query.plan.statement request = .ok statement) :
    (∃ items, query.plan.ListsColumns request statement items) ∧
      query.Gives request (query.plan.resultColumns request) := by
  refine ⟨?_, query.gives_resultColumns listing⟩
  cases request with
  | select => exact Plan.exists_lists_of_select formatted
  | count => exact absurd rfl listing
  | _ => exact Plan.exists_lists_of_writes trivial formatted

end Query

namespace Sample

/-- Notes of accounts, their lengths under a name that needs quotes, and their pictures. -/
def captions : Query :=
  { Query.on account with
    options := Options.unset.put (.list .fields)
      [.ofField "note", ⟨"note length", .raw ⟨"length(note)", []⟩⟩]
    joins := (withPictures "photo").joins }

end Sample

theorem Query.lists_of_captions :
    ∃ statement items, Sample.captions.plan.statement .select = .ok statement ∧
      Sample.captions.plan.ListsColumns .select statement items ∧
      Sample.captions.Gives .select (Sample.captions.plan.resultColumns .select) ∧
      statement.aliases = ["note", "note length", "photo.id", "photo.path"] := by
  obtain ⟨statement, formatted⟩ : ∃ statement,
      Sample.captions.plan.statement .select = .ok statement := ⟨_, rfl⟩
  obtain ⟨⟨items, lists⟩, gives⟩ := Query.lists_of_statement (by simp) formatted
  exact ⟨statement, items, formatted, lists, gives, lists.aliased⟩

end EntityQuery

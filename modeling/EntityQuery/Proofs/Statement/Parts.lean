import EntityQuery.Proofs.Outcome
import EntityQuery.Proofs.Statement.Operand
import Mathlib.Tactic.SplitIfs

/-!
# Parts of statements

A statement succeeds exactly when its parts do, and then it is made of them.  Statements that write
rows have three parts in common: the scope of the plan, its table as it is named in the statement,
and the columns that are returned.
-/

namespace EntityQuery.Plan

open Outcome

variable {plan : Plan} {statement : Statement}

theorem entity_of_scope {scope : Scope} (resolved : plan.scope = .ok scope) :
    scope.entity = plan.entity := by
  obtain ⟨_, -, whole⟩ := bind_eq_ok.1 resolved
  rw [← pure_eq_ok.1 whole]

theorem select_eq_ok :
    plan.select = .ok statement ↔
      ∃ scope own joined source filter groups having order locking,
        plan.scope = .ok scope ∧ Column.formatAll scope none plan.columns = .ok own ∧
        Join.formatAll scope plan.joins = .ok joined ∧ scope.source = .ok source ∧
        Expr.formatAll scope plan.filter = .ok filter ∧
        Clause.groupBy scope plan.settings = .ok groups ∧
        Expr.formatAll scope plan.having = .ok having ∧
        Clause.orderBy scope plan.settings = .ok order ∧
        Clause.locking plan.settings.locking = .ok locking ∧
        statement = .ofFragment
          (.clauses
            [.ofText ("SELECT " ++ if plan.settings.distinct then "DISTINCT " else "") ++
                OutputColumn.list (own ++ JoinedTable.allColumns joined),
              .ofText ("FROM " ++ source), JoinedTable.clauses joined,
              Clause.predicate "WHERE " filter, groups, Clause.predicate "HAVING " having, order,
              .ofText (Clause.limit plan.settings), .ofText (Clause.offset plan.settings),
              .ofText locking])
          (OutputColumn.aliases (own ++ JoinedTable.allColumns joined)) := by
  obtain ⟨entity, tableAlias, columns, filter, having, settings, joins⟩ := plan
  unfold select
  constructor
  · intro selected
    obtain ⟨scope, resolved, columned⟩ := bind_eq_ok.1 selected
    obtain ⟨own, ownShown, joining⟩ := bind_eq_ok.1 columned
    obtain ⟨joined, joinedShown, sourcing⟩ := bind_eq_ok.1 joining
    obtain ⟨source, sourced, filtering⟩ := bind_eq_ok.1 sourcing
    obtain ⟨items, itemsShown, grouping⟩ := bind_eq_ok.1 filtering
    obtain ⟨groups, grouped, restricting⟩ := bind_eq_ok.1 grouping
    obtain ⟨restriction, restricted, ordering⟩ := bind_eq_ok.1 restricting
    obtain ⟨order, ordered, locks⟩ := bind_eq_ok.1 ordering
    obtain ⟨locking, locked, whole⟩ := bind_eq_ok.1 locks
    exact ⟨scope, own, joined, source, items, groups, restriction, order, locking, resolved,
      ownShown, joinedShown, sourced, itemsShown, grouped, restricted, ordered, locked,
      (pure_eq_ok.1 whole).symm⟩
  · rintro ⟨scope, own, joined, source, items, groups, restriction, order, locking, resolved,
      ownShown, joinedShown, sourced, itemsShown, grouped, restricted, ordered, locked, rfl⟩
    exact bind_eq_ok.2 ⟨scope, resolved, bind_eq_ok.2 ⟨own, ownShown, bind_eq_ok.2
      ⟨joined, joinedShown, bind_eq_ok.2 ⟨source, sourced, bind_eq_ok.2 ⟨items, itemsShown,
      bind_eq_ok.2 ⟨groups, grouped, bind_eq_ok.2 ⟨restriction, restricted, bind_eq_ok.2
      ⟨order, ordered, bind_eq_ok.2 ⟨locking, locked, rfl⟩⟩⟩⟩⟩⟩⟩⟩⟩

/-- The scope, the table and the returned columns of statements that write rows. -/
structure Writable (plan : Plan) (scope : Scope) (source : String) (returned : List OutputColumn) :
    Prop where
  resolved : plan.scope = .ok scope
  sourced : scope.source = .ok source
  shown : plan.outputColumns scope = .ok returned

theorem insert_eq_ok {rows : List Record} :
    plan.insert rows = .ok statement ↔
      ∃ row rest, rows = row :: rest ∧ knownFields plan.entity row ≠ [] ∧
        ∃ scope source returned, plan.Writable scope source returned ∧
          statement = .ofFragment
            (.clauses
              [.ofText ("INSERT INTO " ++ source ++ " (" ++
                  columnNames (knownFields plan.entity row) ++ ")"),
                .ofText "VALUES " ++ .joined ", "
                  ((row :: rest).map (insertTuple (knownFields plan.entity row))),
                returningClause returned])
            (OutputColumn.aliases returned) := by
  unfold insert
  constructor
  · intro inserted
    obtain ⟨scope, resolved, known⟩ := bind_eq_ok.1 inserted
    cases rows with
    | nil => exact nomatch known
    | cons row rest =>
        dsimp only at known
        split_ifs at known with unknown
        · exact nomatch known
        · obtain ⟨source, sourced, returning⟩ := bind_eq_ok.1 known
          obtain ⟨returned, shown, whole⟩ := bind_eq_ok.1 returning
          exact ⟨row, rest, rfl, fun nothing => unknown (List.isEmpty_iff.2 nothing), scope, source,
            returned, ⟨resolved, sourced, shown⟩, (pure_eq_ok.1 whole).symm⟩
  · rintro ⟨row, rest, rfl, known, scope, source, returned, ⟨resolved, sourced, shown⟩, rfl⟩
    refine bind_eq_ok.2 ⟨scope, resolved, ?_⟩
    dsimp only
    rw [if_neg fun unknown => known (List.isEmpty_iff.1 unknown)]
    exact bind_eq_ok.2 ⟨source, sourced, bind_eq_ok.2 ⟨returned, shown, rfl⟩⟩

theorem insertFrom_eq_ok {source : InsertSource} :
    plan.insertFrom source = .ok statement ↔
      ∃ scope target body returned, plan.Writable scope target returned ∧
        sourceFragment source = .ok body ∧
        statement = .ofFragment
          (.clauses [.ofText ("INSERT INTO " ++ target), body, returningClause returned])
          (OutputColumn.aliases returned) := by
  unfold insertFrom
  constructor
  · intro inserted
    obtain ⟨scope, resolved, sourced⟩ := bind_eq_ok.1 inserted
    obtain ⟨target, targeted, filled⟩ := bind_eq_ok.1 sourced
    obtain ⟨body, given, returning⟩ := bind_eq_ok.1 filled
    obtain ⟨returned, shown, whole⟩ := bind_eq_ok.1 returning
    exact ⟨scope, target, body, returned, ⟨resolved, targeted, shown⟩, given,
      (pure_eq_ok.1 whole).symm⟩
  · rintro ⟨scope, target, body, returned, ⟨resolved, targeted, shown⟩, given, rfl⟩
    exact bind_eq_ok.2 ⟨scope, resolved, bind_eq_ok.2 ⟨target, targeted, bind_eq_ok.2
      ⟨body, given, bind_eq_ok.2 ⟨returned, shown, rfl⟩⟩⟩⟩

theorem update_eq_ok {record : Record} :
    plan.update record = .ok statement ↔
      assignments plan.entity record ≠ [] ∧
        ∃ scope source filter returned, plan.Writable scope source returned ∧
          plan.updateFilter scope record = .ok filter ∧
          statement = .ofFragment
            (.clauses
              [.ofText ("UPDATE " ++ source ++ " SET ") ++
                  .joined ", " ((assignments plan.entity record).map assignment),
                filter, returningClause returned])
            (OutputColumn.aliases returned) := by
  rw [update_eq]
  constructor
  · intro updated
    obtain ⟨scope, resolved, assigned⟩ := bind_eq_ok.1 updated
    split_ifs at assigned with unassigned
    obtain ⟨source, sourced, filtered⟩ := bind_eq_ok.1 assigned
    obtain ⟨filter, given, returning⟩ := bind_eq_ok.1 filtered
    obtain ⟨returned, shown, whole⟩ := bind_eq_ok.1 returning
    exact ⟨fun nothing => unassigned (List.isEmpty_iff.2 nothing), scope, source, filter, returned,
      ⟨resolved, sourced, shown⟩, given, (pure_eq_ok.1 whole).symm⟩
  · rintro ⟨assigned, scope, source, filter, returned, ⟨resolved, sourced, shown⟩, given, rfl⟩
    refine bind_eq_ok.2 ⟨scope, resolved, ?_⟩
    rw [if_neg fun unassigned => assigned (List.isEmpty_iff.1 unassigned)]
    exact bind_eq_ok.2 ⟨source, sourced, bind_eq_ok.2
      ⟨filter, given, bind_eq_ok.2 ⟨returned, shown, rfl⟩⟩⟩

theorem updateBatch_eq_ok {records : List Record} :
    plan.updateBatch records = .ok statement ↔
      ∃ record rest, records = record :: rest ∧
        batchFault? plan.entity.primaryFields (knownFields plan.entity record) = none ∧
        ∃ scope source returned qualifier items, plan.Writable scope source returned ∧
          scope.qualifier = .ok qualifier ∧ Expr.formatAll scope plan.filter = .ok items ∧
          statement = .ofFragment
            (.clauses
              [.ofText ("UPDATE " ++ source ++ " SET " ++ ", ".intercalate
                  (((knownFields plan.entity record).filter fun field => !field.primary).map
                    batchAssignment)),
                .ofText "FROM (VALUES " ++ .joined ", "
                    ((record :: rest).map (updateTuple (knownFields plan.entity record))) ++
                  .ofText (") AS " ++ valuesName.toSql ++ "(" ++
                    columnNames (knownFields plan.entity record) ++ ")"),
                .ofText ("WHERE " ++ " AND ".intercalate
                    (plan.entity.primaryFields.map (batchKey qualifier))) ++
                  (Junction.and.combine items).after " AND ",
                returningClause returned])
            (OutputColumn.aliases returned) := by
  unfold updateBatch
  constructor
  · intro updated
    obtain ⟨scope, resolved, started⟩ := bind_eq_ok.1 updated
    cases records with
    | nil => exact nomatch started
    | cons record rest =>
        dsimp only at started
        split at started
        case h_1 => exact nomatch started
        case h_2 faultless =>
          obtain ⟨qualifier, qualified, named⟩ := bind_eq_ok.1 started
          obtain ⟨source, sourced, filtered⟩ := bind_eq_ok.1 named
          obtain ⟨items, given, returning⟩ := bind_eq_ok.1 filtered
          obtain ⟨returned, shown, whole⟩ := bind_eq_ok.1 returning
          exact ⟨record, rest, rfl, faultless, scope, source, returned, qualifier, items,
            ⟨resolved, sourced, shown⟩, qualified, given, (pure_eq_ok.1 whole).symm⟩
  · rintro ⟨record, rest, rfl, faultless, scope, source, returned, qualifier, items,
      ⟨resolved, sourced, shown⟩, qualified, given, rfl⟩
    refine bind_eq_ok.2 ⟨scope, resolved, ?_⟩
    dsimp only
    rw [faultless]
    exact bind_eq_ok.2 ⟨qualifier, qualified, bind_eq_ok.2 ⟨source, sourced, bind_eq_ok.2
      ⟨items, given, bind_eq_ok.2 ⟨returned, shown, rfl⟩⟩⟩⟩

theorem delete_eq_ok :
    plan.delete = .ok statement ↔
      ∃ scope source filter returned, plan.Writable scope source returned ∧
        plan.whereClause scope = .ok filter ∧
        statement = .ofFragment
          (.clauses [.ofText ("DELETE " ++ ("FROM " ++ source)), filter, returningClause returned])
          (OutputColumn.aliases returned) := by
  unfold delete
  constructor
  · intro deleted
    obtain ⟨scope, resolved, sourced⟩ := bind_eq_ok.1 deleted
    obtain ⟨_, named, returning⟩ := bind_eq_ok.1 sourced
    obtain ⟨source, sourced, keyed⟩ := bind_eq_ok.1 named
    obtain rfl := pure_eq_ok.1 keyed
    obtain ⟨returned, shown, filtered⟩ := bind_eq_ok.1 returning
    obtain ⟨filter, given, whole⟩ := bind_eq_ok.1 filtered
    exact ⟨scope, source, filter, returned, ⟨resolved, sourced, shown⟩, given,
      (pure_eq_ok.1 whole).symm⟩
  · rintro ⟨scope, source, filter, returned, ⟨resolved, sourced, shown⟩, given, rfl⟩
    exact bind_eq_ok.2 ⟨scope, resolved, bind_eq_ok.2 ⟨_, bind_eq_ok.2 ⟨source, sourced, rfl⟩,
      bind_eq_ok.2 ⟨returned, shown, bind_eq_ok.2 ⟨filter, given, rfl⟩⟩⟩⟩

end EntityQuery.Plan

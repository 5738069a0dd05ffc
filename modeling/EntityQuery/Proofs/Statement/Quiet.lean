import EntityQuery.Statement.Update
import EntityQuery.Proofs.Outcome
import EntityQuery.Proofs.Placeholder.Scan

/-!
# Quiet texts of statements

Whatever a statement writes besides fragments of the caller is quiet: keywords, numbers, lock modes,
and the names of tables, columns and aliases, which are quoted where they need to be.
-/

namespace EntityQuery

open Placeholder Outcome

namespace Scope

theorem isQuiet_of_column {scope : Scope} {name text : String}
    (resolved : scope.column name = .ok text) : IsQuiet text := by
  simp only [column, bind_eq_ok, pure_eq_ok] at resolved
  obtain ⟨field, -, qualifier, -, rfl⟩ := resolved
  exact Ident.isQuiet_qualified qualifier field.column

theorem isQuiet_of_fieldColumn {scope : Scope} {reference : FieldRef} {text : String}
    (resolved : scope.fieldColumn reference = .ok text) : IsQuiet text := by
  unfold fieldColumn at resolved
  split at resolved
  case isTrue => exact isQuiet_of_column resolved
  case isFalse =>
      simp only [bind_eq_ok, pure_eq_ok] at resolved
      obtain ⟨table, -, rfl⟩ := resolved
      exact Ident.isQuiet_qualified table reference.field.column

end Scope

theorem Entity.isQuiet_of_qualifiedTable {entity : Entity} {text : String}
    (resolved : entity.qualifiedTable = .ok text) : IsQuiet text := by
  simp only [qualifiedTable, bind_eq_ok, pure_eq_ok] at resolved
  obtain ⟨table, -, rfl⟩ := resolved
  split
  case h_1 schema _ => exact Ident.isQuiet_qualified schema table
  case h_2 => exact table.isQuiet_toSql

theorem Scope.isQuiet_of_source {scope : Scope} {text : String}
    (resolved : scope.source = .ok text) : IsQuiet text := by
  simp only [source, bind_eq_ok, pure_eq_ok] at resolved
  obtain ⟨table, tableResolved, rfl⟩ := resolved
  have tableQuiet := Entity.isQuiet_of_qualifiedTable tableResolved
  split
  case h_1 tableAlias _ =>
      exact (tableQuiet.append (isQuiet_of_isInert _ (by decide))).append tableAlias.isQuiet_toSql
  case h_2 => exact tableQuiet

namespace Clause

theorem isQuiet_limit (settings : PlanSettings) : IsQuiet (limit settings) := by
  unfold limit
  split
  case h_1 number _ =>
      exact isQuiet_of_isInert _ (isInert_append.2 ⟨by decide, isInert_toString number⟩)
  case h_2 => exact isQuiet_empty

theorem isQuiet_offset (settings : PlanSettings) : IsQuiet (offset settings) := by
  unfold offset
  split
  case h_1 number _ =>
      exact isQuiet_of_isInert _ (isInert_append.2 ⟨by decide, isInert_toString number⟩)
  case h_2 => exact isQuiet_empty

theorem isQuiet_lockMode {details : Locking} {mode : String}
    (chosen : lockMode details = some mode) :
    IsQuiet mode := by
  unfold lockMode at chosen
  split at chosen
  · obtain rfl := Option.some.inj chosen
    exact isQuiet_of_isInert _ (by decide)
  · split at chosen
    · obtain rfl := Option.some.inj chosen
      exact isQuiet_of_isInert _ (by decide)
    · contradiction

theorem isQuiet_of_locking {details : Locking} {text : String}
    (formatted : locking details = .ok text) : IsQuiet text := by
  unfold locking at formatted
  split at formatted
  case h_1 =>
      obtain rfl := Except.ok.inj formatted
      exact isQuiet_empty
  case h_2 mode chosen =>
      simp only [bind_eq_ok, pure_eq_ok] at formatted
      obtain ⟨tables, -, rfl⟩ := formatted
      have modeQuiet := isQuiet_lockMode chosen
      have tablesQuiet : IsQuiet (", ".intercalate (tables.map Ident.toSql)) :=
        isQuiet_intercalate (isQuiet_of_isInert _ (by decide)) (by
          intro text member
          obtain ⟨table, -, rfl⟩ := List.mem_map.1 member
          exact table.isQuiet_toSql)
      have restrictionQuiet : IsQuiet
          (if tables.isEmpty then "" else " OF " ++ ", ".intercalate (tables.map Ident.toSql)) := by
        split
        · exact isQuiet_empty
        · exact (isQuiet_of_isInert _ (by decide)).append tablesQuiet
      have noWaitQuiet : IsQuiet (if details.noWait then " NOWAIT" else "") := by
        split <;> exact isQuiet_of_isInert _ (by decide)
      have skipLockedQuiet : IsQuiet (if details.skipLocked then " SKIP LOCKED" else "") := by
        split <;> exact isQuiet_of_isInert _ (by decide)
      exact ((modeQuiet.append restrictionQuiet).append noWaitQuiet).append skipLockedQuiet

end Clause

theorem FieldType.isInert_of_sqlType {type : FieldType} {sqlType : String}
    (known : type.sqlType? = some sqlType) : IsInert sqlType := by
  cases type <;> cases known <;> decide

theorem Operator.keyword_inert (operator : Operator) : IsInert operator.keyword := by
  rcases operator with (_ | _) | (_ | _ | _ | _ | _ | _ | _) | _ | _ | _ | _ | (_ | _ | _) |
    (_ | _) <;> decide

namespace Plan

theorem isQuiet_of_fromClause {scope : Scope} {text : String}
    (formatted : fromClause scope = .ok text) :
    IsQuiet text := by
  simp only [fromClause, bind_eq_ok, pure_eq_ok] at formatted
  obtain ⟨source, resolved, rfl⟩ := formatted
  exact (isQuiet_of_isInert _ (by decide)).append (Scope.isQuiet_of_source resolved)

theorem isQuiet_columnNames (fields : List Field) : IsQuiet (columnNames fields) :=
  isQuiet_intercalate (isQuiet_of_isInert _ (by decide)) (by
    intro text member
    obtain ⟨field, -, rfl⟩ := List.mem_map.1 member
    exact field.column.isQuiet_toSql)

theorem isQuiet_insertHead {source : String} (sourceQuiet : IsQuiet source)
    (fields : List Field) :
    IsQuiet ("INSERT INTO " ++ source ++ " (" ++ columnNames fields ++ ")") := by
  have target := (isQuiet_of_isInert "INSERT INTO " (by decide)).append sourceQuiet
  have opened := target.append (isQuiet_of_isInert " (" (by decide))
  exact (opened.append (isQuiet_columnNames fields)).append (isQuiet_of_isInert _ (by decide))

theorem isQuiet_batchAssignment (field : Field) : IsQuiet (batchAssignment field) :=
  (field.column.isQuiet_toSql.append (isQuiet_of_isInert _ (by decide))).append
    (Ident.isQuiet_qualified valuesName field.column)

theorem isQuiet_batchKey (qualifier : Ident) (field : Field) : IsQuiet (batchKey qualifier field) :=
  have target := Ident.isQuiet_qualified qualifier field.column
  (target.append (isQuiet_of_isInert _ (by decide))).append
    (Ident.isQuiet_qualified valuesName field.column)

theorem isQuiet_batchHead {source : String} (sourceQuiet : IsQuiet source) (fields : List Field) :
    IsQuiet ("UPDATE " ++ source ++ " SET " ++ ", ".intercalate (fields.map batchAssignment)) := by
  have target := ((isQuiet_of_isInert "UPDATE " (by decide)).append sourceQuiet).append
    (isQuiet_of_isInert " SET " (by decide))
  refine target.append (isQuiet_intercalate (isQuiet_of_isInert _ (by decide)) ?_)
  intro text member
  obtain ⟨field, -, rfl⟩ := List.mem_map.1 member
  exact isQuiet_batchAssignment field

theorem isQuiet_valuesColumns (fields : List Field) :
    IsQuiet (") AS " ++ valuesName.toSql ++ "(" ++ columnNames fields ++ ")") := by
  have named := (isQuiet_of_isInert ") AS " (by decide)).append valuesName.isQuiet_toSql
  have listed := (named.append (isQuiet_of_isInert "(" (by decide))).append
    (isQuiet_columnNames fields)
  exact listed.append (isQuiet_of_isInert _ (by decide))

theorem isQuiet_batchKeys (qualifier : Ident) (keys : List Field) :
    IsQuiet ("WHERE " ++ " AND ".intercalate (keys.map (batchKey qualifier))) := by
  refine (isQuiet_of_isInert _ (by decide)).append
    (isQuiet_intercalate (isQuiet_of_isInert _ (by decide)) ?_)
  intro text member
  obtain ⟨key, -, rfl⟩ := List.mem_map.1 member
  exact isQuiet_batchKey qualifier key

end Plan

end EntityQuery

import EntityQuery.Scope

/-!
# Clauses

The parts of a statement, each from fragments that are already formatted.  Combined predicates are
put in parentheses exactly when at least two of them have text.
-/

namespace EntityQuery

/-- The items that have text, combined: nothing, the only one, or all of them in parentheses. -/
def Junction.combine (connective : Junction) (parts : List Fragment) : Fragment :=
  match parts.filter fun part => !part.isEmpty with
  | [] => .empty
  | [part] => part
  | parts => (Fragment.intercalate connective.separator parts).parenthesized

namespace Clause

/-- A condition clause over items that must all hold, or nothing. -/
def predicate (keyword : String) (items : List Fragment) : Fragment :=
  (Junction.and.combine items).after keyword

/-- A keyword before a list, or nothing for no items. -/
def listing (keyword : String) (items : List Fragment) : Fragment :=
  if items.isEmpty then .empty else .ofText keyword ++ .joined ", " items

/-- The rows to fetch at most; the first row alone takes precedence over a limit. -/
def limit (settings : PlanSettings) : String :=
  match if settings.first then some 1 else settings.limit with
  | some count => "LIMIT " ++ toString count
  | none => ""

def offset (settings : PlanSettings) : String :=
  match settings.offset with
  | some count => "OFFSET " ++ toString count
  | none => ""

def distinct (settings : PlanSettings) : String := if settings.distinct then "DISTINCT" else ""

def groupBy (scope : Scope) (settings : PlanSettings) : Except Error Fragment := do
  let targets ← settings.groupBy.mapM (·.format scope)
  return listing "GROUP BY " targets

def orderTerm (scope : Scope) (term : OrderTerm) : Except Error Fragment := do
  let target ← term.target.format scope
  return target ++ .ofText (" " ++ term.direction.keyword)

def orderBy (scope : Scope) (settings : PlanSettings) : Except Error Fragment := do
  let terms ← settings.orderBy.mapM (orderTerm scope)
  return listing "ORDER BY " terms

/-- The lock mode, if rows are to be locked; an exclusive lock takes precedence. -/
def lockMode (locking : Locking) : Option String :=
  if locking.forUpdate then some "FOR UPDATE"
  else if locking.forShare then some "FOR SHARE"
  else none

/-- The locking clause.  Its details only count together with a lock mode. -/
def locking (locking : Locking) : Except Error String :=
  match lockMode locking with
  | none => .ok ""
  | some mode => do
      let tables ← locking.tables.mapM Ident.validated
      let restriction :=
        if tables.isEmpty then "" else " OF " ++ ", ".intercalate (tables.map Ident.toSql)
      let noWait := if locking.noWait then " NOWAIT" else ""
      let skipLocked := if locking.skipLocked then " SKIP LOCKED" else ""
      return mode ++ restriction ++ noWait ++ skipLocked

end Clause

/-- A formatted column and the alias of its value. -/
structure OutputColumn where
  fragment : Fragment
  outputAlias : String

namespace OutputColumn

def list (columns : List OutputColumn) : Fragment :=
  .joined ", " (columns.map OutputColumn.fragment)

/-- The aliases of formatted columns, in the same order. -/
def aliases (columns : List OutputColumn) : List String := columns.map OutputColumn.outputAlias

/-- A column under an alias.  The alias is written unless the column is the field of that name. -/
def ofSource (scope : Scope) (outputAlias : String) (source : ColumnSource)
    (fragment : Fragment) : Except Error OutputColumn :=
  let isOwnName := match source with
    | .field name => outputAlias == name
    | _ => false
  if isOwnName then .ok ⟨fragment, outputAlias⟩
  else
    match Ident.ofName outputAlias with
    | .ok ident => .ok ⟨fragment ++ .ofText (" AS " ++ ident.toSql), outputAlias⟩
    | .error fault =>
        .error (.invalidOption "fields" (.columnAlias scope.entity.name fault))

end OutputColumn

/-- A formatted join: its clause and the columns selected from it. -/
structure JoinedTable where
  clause : Fragment
  columns : List OutputColumn

namespace JoinedTable

def clauses (joins : List JoinedTable) : Fragment := .clauses (joins.map JoinedTable.clause)

def allColumns (joins : List JoinedTable) : List OutputColumn := joins.flatMap JoinedTable.columns

/-- The pairs of fields that a join is on: the given ones, else those that references give. -/
def resolvePairs (owner joined : Entity) (pairs : List (String × String)) :
    Except Error (List (String × String)) :=
  let resolved := if pairs.isEmpty then referencePairs owner joined else pairs
  if resolved.isEmpty then .error (.config (.noReference owner.name joined.name))
  else .ok resolved

/-- The equation of a pair: the field of the joined entity, then the field of the outer one. -/
def keyEquation (owner joined : Scope) (pair : String × String) : Except Error Fragment := do
  let foreign ← joined.column pair.2
  let own ← owner.column pair.1
  return .ofText (foreign ++ " = " ++ own)

/-- The clause of a join: the table under its alias and the condition, in which the filter of the
joined query comes after the key equations. -/
def joinClause (kind : JoinKind) (table : Ident) (source : String) (joinAlias : Ident)
    (keys filter : List Fragment) : Fragment :=
  let named := if joinAlias = table then source else source ++ " AS " ++ joinAlias.toSql
  .ofText (kind.keyword ++ named ++ " ON ") ++
    .joined " AND " (keys ++ [Junction.and.combine filter])

end JoinedTable

end EntityQuery

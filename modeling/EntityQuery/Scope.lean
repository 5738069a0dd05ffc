import EntityQuery.Expr

/-!
# Scopes

A scope says how columns are written while one query is formatted: plain names are fields of its
entity, and columns are qualified by its alias or else by the table.
-/

namespace EntityQuery

/-- The entity that is formatted and the alias of its table. -/
structure Scope where
  entity : Entity
  tableAlias : Option Ident

namespace Scope

/-- The scope of a query with an optional alias, which must be an identifier. -/
def ofNames (entity : Entity) (tableAlias : Option String) : Except Error Scope := do
  let resolved ← EntityDeclaration.resolveName entity.name .queryAlias tableAlias
  return ⟨entity, resolved⟩

/-- What columns of the entity are qualified by. -/
def qualifier (scope : Scope) : Except Error Ident :=
  match scope.tableAlias with
  | some tableAlias => .ok tableAlias
  | none => scope.entity.requireTable

/-- The qualified column of a field of the entity. -/
def column (scope : Scope) (name : String) : Except Error String := do
  let field ← scope.entity.field name
  let qualifier ← scope.qualifier
  return Ident.qualified qualifier field.column

/-- The qualified column of a field reference: fields of the entity itself follow its alias, other
fields stand under their own table. -/
def fieldColumn (scope : Scope) (reference : FieldRef) : Except Error String :=
  if reference.owner.identity = scope.entity.identity then scope.column reference.name
  else do
    let table ← reference.owner.requireTable
    return Ident.qualified table reference.field.column

/-- The table as the source of rows, under its alias if it has one. -/
def source (scope : Scope) : Except Error String := do
  let table ← scope.entity.qualifiedTable
  return match scope.tableAlias with
    | some tableAlias => table ++ " AS " ++ tableAlias.toSql
    | none => table

end Scope

def Target.format (scope : Scope) : Target → Except Error Fragment
  | .name fieldName => return .ofText (← scope.column fieldName)
  | .field reference => return .ofText (← scope.fieldColumn reference)
  | .raw fragment => .ok fragment

end EntityQuery

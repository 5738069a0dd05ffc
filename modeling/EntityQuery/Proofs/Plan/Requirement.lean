import EntityQuery.Proofs.Plan.Request
import EntityQuery.Proofs.Statement.Aliases

/-!
# Requirements of statements

Formatting looks things up: tables and fields of entities, pairs of fields to join on, and names
that must be identifiers.  What a statement looks up can be listed from its plan and its data alone.
It is listed here in the order in which formatting meets it, so that the first requirement that is
not met says which error there is.
-/

namespace EntityQuery

/-- The name can be that of an identifier. -/
def Ident.IsName (name : String) : Prop := name ≠ "" ∧ '\x00' ∉ name.toList

instance (name : String) : Decidable (Ident.IsName name) :=
  inferInstanceAs (Decidable (_ ∧ _))

/-- Something that a statement cannot be formatted without. -/
inductive Requirement
  /-- The entity has a table. -/
  | table (entity : Entity)
  /-- The entity has a field of the name. -/
  | field (entity : Entity) (name : String)
  /-- There are pairs of fields to join two entities on. -/
  | link (owner joined : Entity) (pairs : List (String × String))
  /-- The alias of a column can be written. -/
  | columnAlias (entity : Entity) (name : String)
  /-- The name of a query or join can be written. -/
  | name (entity : Entity) (role : NameRole) (name : String)
  /-- The name of a table to lock can be written. -/
  | lockedTable (name : String)
  /-- Rows can be split into batches of the size. -/
  | batchSize (size : Option Nat)
  /-- Rows can be written, unless there is a fault. -/
  | rows (entity : Entity) (fault : Option RowsFault)

namespace Requirement

def IsMet : Requirement → Prop
  | .table entity => entity.table ≠ none
  | .field entity text => text ∈ entity.fieldNames
  | .link _ _ pairs => pairs ≠ []
  | .columnAlias _ text | .name _ _ text | .lockedTable text => Ident.IsName text
  | .batchSize size => size ≠ some 0
  | .rows _ fault => fault = none

instance : (requirement : Requirement) → Decidable requirement.IsMet
  | .table entity => inferInstanceAs (Decidable (entity.table ≠ none))
  | .field entity text => inferInstanceAs (Decidable (text ∈ entity.fieldNames))
  | .link _ _ pairs => inferInstanceAs (Decidable (pairs ≠ []))
  | .columnAlias _ text | .name _ _ text | .lockedTable text =>
      inferInstanceAs (Decidable (Ident.IsName text))
  | .batchSize size => inferInstanceAs (Decidable (size ≠ some 0))
  | .rows _ fault => inferInstanceAs (Decidable (fault = none))

/-- The error for a requirement that is not met. -/
inductive Raises : Requirement → Error → Prop
  | table {entity : Entity} : entity.table = none →
      Raises (.table entity) (.missingTable entity.name)
  | field {entity : Entity} {name : String} : name ∉ entity.fieldNames →
      Raises (.field entity name) (.unknownField entity.name name)
  | link (owner joined : Entity) :
      Raises (.link owner joined []) (.config (.noReference owner.name joined.name))
  | columnAlias {entity : Entity} {name : String} {fault : IdentFault} :
      Ident.ofName name = .error fault →
      Raises (.columnAlias entity name)
        (.invalidOption "fields" (.columnAlias entity.name fault))
  | name {entity : Entity} {role : NameRole} {name : String} {fault : IdentFault} :
      Ident.ofName name = .error fault →
      Raises (.name entity role name) (.validation (.name entity.name role fault))
  | lockedTable {name : String} {fault : IdentFault} : Ident.ofName name = .error fault →
      Raises (.lockedTable name) (.validation (.identifier fault))
  | batchSize : Raises (.batchSize (some 0)) (.invalidOption "batchSize" .notPositive)
  | rows {entity : Entity} {fault : RowsFault} :
      Raises (.rows entity (some fault)) (.validation (.rows entity.name fault))

/-- The requirements are met up to the first one that is not, which gives the error. -/
inductive FirstRaises : List Requirement → Error → Prop
  | here {requirement : Requirement} {rest : List Requirement} {error : Error} :
      requirement.Raises error → FirstRaises (requirement :: rest) error
  | later {requirement : Requirement} {rest : List Requirement} {error : Error} :
      requirement.IsMet → FirstRaises rest error → FirstRaises (requirement :: rest) error

end Requirement

/-- A scope by its names, whether or not they can be written. -/
structure NamedScope where
  entity : Entity
  tableAlias : Option String

def Scope.named (scope : Scope) : NamedScope := ⟨scope.entity, scope.tableAlias.map Ident.name⟩

namespace NamedScope

/-- Columns that are not qualified by an alias are qualified by the table. -/
def qualifier (scope : NamedScope) : List Requirement :=
  if scope.tableAlias.isSome then [] else [.table scope.entity]

def column (scope : NamedScope) (name : String) : List Requirement :=
  .field scope.entity name :: scope.qualifier

def fieldColumn (scope : NamedScope) (reference : FieldRef) : List Requirement :=
  if reference.owner.identity = scope.entity.identity then scope.column reference.name
  else [.table reference.owner]

/-- An alias is not written for a field of that name. -/
def outputAlias (scope : NamedScope) (outputAlias : String) : ColumnSource → List Requirement
  | .field name => if outputAlias = name then [] else [.columnAlias scope.entity outputAlias]
  | .raw _ | .subquery _ => [.columnAlias scope.entity outputAlias]

end NamedScope

def Target.requirements (scope : NamedScope) : Target → List Requirement
  | .name fieldName => scope.column fieldName
  | .field reference => scope.fieldColumn reference
  | .raw _ => []

/-- Tables to lock only count together with a lock mode. -/
def Locking.requirements (locking : Locking) : List Requirement :=
  if locking.forUpdate || locking.forShare then locking.tables.map .lockedTable else []

/-- The pairs of fields that two entities are joined on: the given ones, else those that references
give. -/
def Entity.linkedPairs (owner joined : Entity) (pairs : List (String × String)) :
    List (String × String) :=
  if pairs.isEmpty then referencePairs owner joined else pairs

/-- Both fields of a pair, the one of the joined entity first. -/
def NamedScope.pair (owner joined : NamedScope) (pair : String × String) : List Requirement :=
  joined.column pair.2 ++ owner.column pair.1

mutual

def Expr.requirements (scope : NamedScope) : Expr → List Requirement
  | .value _ | .raw _ | .unbound => []
  | .list items | .group _ items => Expr.requirementsAll scope items
  | .field reference => scope.fieldColumn reference
  | .column name => scope.column name
  | .subquery plan => plan.requirements
  | .condition condition => condition.requirements scope

def Expr.requirementsAll (scope : NamedScope) : List Expr → List Requirement
  | [] => []
  | item :: rest => item.requirements scope ++ Expr.requirementsAll scope rest

/-- Bounds of a range past the second require nothing. -/
def Condition.requirements (scope : NamedScope) : Condition → List Requirement
  | .nullTest _ target => target.requirements scope
  | .between target (.list (low :: high :: _)) =>
      target.requirements scope ++ low.requirements scope ++ high.requirements scope
  | .compare _ target operand | .between target operand | .isIn target operand =>
      target.requirements scope ++ operand.requirements scope
  | .quantified _ target operand =>
      target.toList.flatMap (Target.requirements scope) ++ operand.requirements scope
  | .not operand | .exists operand | .junction _ operand => operand.requirements scope

def ColumnSource.requirements (scope : NamedScope) : ColumnSource → List Requirement
  | .field name => scope.column name
  | .raw _ => []
  | .subquery plan => plan.requirements

def Column.requirementsAll (scope : NamedScope) (join : Option String) :
    List Column → List Requirement
  | [] => []
  | column@⟨_, source⟩ :: rest =>
      source.requirements scope ++ scope.outputAlias (column.aliasIn join) source ++
        Column.requirementsAll scope join rest

/-- Of a joined plan, only the entity, the name, the filter and the columns count. -/
def Join.requirementsAll (owner : NamedScope) : List Join → List Requirement
  | [] => []
  | join@⟨_, ⟨joined, _, columns, filter, _, _, _⟩, _, pairs⟩ :: rest =>
      let scope : NamedScope := ⟨joined, some join.shownName⟩
      let linked := owner.entity.linkedPairs joined pairs
      [.table joined, .name owner.entity .joinAlias join.shownName,
          .link owner.entity joined linked] ++
        linked.flatMap (owner.pair scope) ++ Expr.requirementsAll scope filter ++
        Column.requirementsAll scope (some join.shownName) columns ++
        Join.requirementsAll owner rest

/-- What the SELECT statement of a plan requires. -/
def Plan.requirements : Plan → List Requirement
  | ⟨entity, tableAlias, columns, filter, having, settings, joins⟩ =>
      let scope : NamedScope := ⟨entity, tableAlias⟩
      tableAlias.toList.map (.name entity .queryAlias) ++
        Column.requirementsAll scope none columns ++ Join.requirementsAll scope joins ++
        [.table entity] ++ Expr.requirementsAll scope filter ++
        settings.groupBy.flatMap (Target.requirements scope) ++
        Expr.requirementsAll scope having ++
        settings.orderBy.flatMap (fun term => term.target.requirements scope) ++
        settings.locking.requirements

end

end EntityQuery

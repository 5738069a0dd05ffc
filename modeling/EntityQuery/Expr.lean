import EntityQuery.Registry

/-!
# Expressions and query plans

Everything that can stand in a formatted statement is an expression: bound values, operand lists,
columns, raw fragments, conditions, groups and nested queries.  A nested query is held as a plan:
the parts of a query that formatting reads, with its defaults already resolved.  Conditions have
one constructor for each shape, so that a comparison without operand cannot be written down.
-/

namespace EntityQuery

/-- What an operator, a grouping or an ordering applies to. -/
inductive Target
  | name (name : String)
  | field (reference : FieldRef)
  | raw (fragment : Fragment)

/-- The direction of an ordering. -/
inductive Direction
  | ascending
  | descending
  deriving DecidableEq

def Direction.keyword : Direction → String
  | .ascending => "ASC"
  | .descending => "DESC"

/-- One term of an ordering. -/
structure OrderTerm where
  target : Target
  direction : Direction

/-- How a joined table is attached. -/
inductive JoinKind
  | inner
  | left
  deriving DecidableEq

def JoinKind.keyword : JoinKind → String
  | .inner => "INNER JOIN "
  | .left => "LEFT JOIN "

/-- How rows are locked. -/
structure Locking where
  forUpdate : Bool
  forShare : Bool
  tables : List String
  noWait : Bool
  skipLocked : Bool

/-- The parts of a plan that hold no expressions. -/
structure PlanSettings where
  groupBy : List Target
  orderBy : List OrderTerm
  limit : Option Nat
  offset : Option Nat
  distinct : Bool
  locking : Locking
  batchSize : Option Nat
  first : Bool
  require : Bool
  debug : Bool

mutual

/-- A node of a formatted statement. -/
inductive Expr
  /-- A value bound to one placeholder; an array is bound whole unless it is an operand set. -/
  | value (value : Json)
  /-- An operand list, taken item by item as an operand set. -/
  | list (items : List Expr)
  /-- A column of a certain entity. -/
  | field (reference : FieldRef)
  /-- A field name, resolved against the entity that is being formatted. -/
  | column (name : String)
  /-- A nested query, formatted on its own. -/
  | subquery (plan : Plan)
  /-- A fragment that is spliced in as it is. -/
  | raw (fragment : Fragment)
  | condition (condition : Condition)
  /-- Items combined by AND or OR. -/
  | group (junction : Junction) (items : List Expr)
  /-- A placeholder without a value. -/
  | unbound

/-- A single predicate. -/
inductive Condition
  | nullTest (negated : Bool) (target : Target)
  | compare (comparison : Comparison) (target : Target) (operand : Expr)
  | between (target : Target) (bounds : Expr)
  | isIn (target : Target) (choices : Expr)
  | not (operand : Expr)
  | exists (operand : Expr)
  | quantified (quantifier : Quantifier) (target : Option Target) (operand : Expr)
  | junction (junction : Junction) (operand : Expr)

/-- What a selected column reads from. -/
inductive ColumnSource
  | field (name : String)
  | raw (fragment : Fragment)
  | subquery (plan : Plan)

/-- A selected or returned column, and the name that its value gets in a record. -/
structure Column where
  name : String
  source : ColumnSource

/-- A query as it is formatted: with its columns listed and its options resolved. -/
structure Plan where
  entity : Entity
  tableAlias : Option String
  columns : List Column
  filter : List Expr
  having : List Expr
  settings : PlanSettings
  joins : List Join

/-- A query joined into another one, on pairs of a field of the outer entity and a field of the
joined one; without pairs they come from references. -/
structure Join where
  kind : JoinKind
  plan : Plan
  name : Option String
  pairs : List (String × String)

end

def Column.ofField (name : String) : Column := ⟨name, .field name⟩

/-- All fields of an entity under their own names. -/
def Entity.columns (entity : Entity) : List Column := entity.fieldNames.map Column.ofField

namespace Condition

def operator : Condition → Operator
  | .nullTest negated _ => .nullTest negated
  | .compare comparison _ _ => .compare comparison
  | .between _ _ => .between
  | .isIn _ _ => .isIn
  | .not _ => .not
  | .exists _ => .exists
  | .quantified quantifier _ _ => .quantified quantifier
  | .junction connective _ => .junction connective

/-- The target of the condition, if it has one. -/
def target? : Condition → Option Target
  | .nullTest _ target | .compare _ target _ | .between target _ | .isIn target _ => some target
  | .quantified _ target _ => target
  | _ => none

/-- The value of the condition, if it has one. -/
def value? : Condition → Option Expr
  | .nullTest _ _ => none
  | .compare _ _ value | .between _ value | .isIn _ value | .not value | .exists value
  | .quantified _ _ value | .junction _ value => some value

/-- What is wrong with the parts for an operator, where something is: a target is looked at
before a value. -/
def shapeFault (operator : Operator) (hasTarget : Bool) : ConditionFault :=
  if !hasTarget && !operator.isWholeRow then .missingTarget operator
  else if hasTarget && !operator.acceptsTarget then .unexpectedTarget operator
  else if operator.isUnary then .unexpectedValue operator
  else .missingValue operator

/-- The condition with an operator, a target and a value, if they fit together. -/
def ofParts (operator : Operator) (target : Option Target) (value : Option Expr) :
    Except Error Condition :=
  match operator, target, value with
  | .nullTest negated, some target, none => .ok (.nullTest negated target)
  | .compare comparison, some target, some value => .ok (.compare comparison target value)
  | .between, some target, some value => .ok (.between target value)
  | .isIn, some target, some value => .ok (.isIn target value)
  | .not, none, some value => .ok (.not value)
  | .exists, none, some value => .ok (.exists value)
  | .quantified quantifier, target, some value => .ok (.quantified quantifier target value)
  | .junction connective, none, some value => .ok (.junction connective value)
  | _, _, _ => .error (.invalidCondition (shapeFault operator target.isSome))

/-- The condition with the operator of a tag, a target and a value. -/
def ofTag (tag : String) (target : Option Target) (value : Option Expr) :
    Except Error Condition :=
  match Operator.ofTag? tag with
  | some operator => ofParts operator target value
  | none => .error (.invalidCondition (.unknownOperator tag))

/-- The condition that a field equals an operand. -/
def equalTo (name : String) (operand : Expr) : Condition :=
  .compare .equalTo (.name name) operand

end Condition

/-- Items combined by AND or OR, as they are collected. -/
structure Grouping where
  junction : Junction
  items : List Expr

namespace Grouping

def toExpr (grouping : Grouping) : Expr := .group grouping.junction grouping.items

def push (grouping : Grouping) (item : Expr) : Grouping :=
  { grouping with items := grouping.items ++ [item] }

def equalsAll (pairs : List (String × Expr)) : Grouping :=
  ⟨.and, pairs.map fun pair => .condition (.equalTo pair.1 pair.2)⟩

/-- Fields that all equal the values of a record. -/
def ofRecord (record : Record) : Grouping :=
  equalsAll (record.map fun entry => (entry.1, .value entry.2))

end Grouping

namespace Expr

def ofValues (values : List Json) : Expr := .list (values.map .value)

/-- The bound values of a list that holds nothing else. -/
def values? : List Expr → Option (List Json)
  | [] => some []
  | .value bound :: rest => (values? rest).map (bound :: ·)
  | _ :: _ => none

mutual

/-- Whether the expression is a group that has nothing to say. -/
def isEmpty : Expr → Bool
  | .group _ items => areEmpty items
  | _ => false

/-- Whether all of the expressions are empty. -/
def areEmpty : List Expr → Bool
  | [] => true
  | item :: rest => item.isEmpty && areEmpty rest

end

end Expr

end EntityQuery

import EntityQuery.Proofs.Fragment.Relation
import EntityQuery.Proofs.Statement.Operand

/-!
# Related plans

A relation between fragments extends to the trees that are formatted: related trees have the same
shape, and differ only where their bound values or raw fragments do, or where an operand that is a
value in one is a fragment in the other.  The weight of a pair of trees is the weight of what they
are formatted to; a plan has one for each of its parts, since no statement but SELECT contains all
of them.
-/

namespace EntityQuery

/-- The parts of a plan that hold expressions. -/
inductive Plan.Part
  | columns
  | joinColumns
  | joinClauses
  | filter
  | having
  deriving DecidableEq

/-- The sum over all parts. -/
def Plan.Part.sum (weights : Plan.Part → Nat) : Nat :=
  weights .columns + weights .joinColumns + weights .joinClauses + weights .filter +
    weights .having

theorem Plan.Part.sum_mul (weights : Plan.Part → Nat) (factor : Nat) :
    Plan.Part.sum (fun part => weights part * factor) = Plan.Part.sum weights * factor := by
  simp only [Plan.Part.sum, Nat.add_mul]

/-- Two literals: arrays with related items, or related values neither of which is an array. -/
inductive Json.Literal (datum : Json → Json → Prop) : Json → Json → Prop
  | array {items others : List Json} :
      List.Forall₂ datum items others → Literal datum (.array items) (.array others)
  | plain {first second : Json} : first.array? = none → second.array? = none →
      datum first second → Literal datum first second

/-- Two targets with the same column or related fragments. -/
inductive Target.Related (relation : FragmentRelation) : Target → Target → Prop
  | name (name : String) : Related relation (.name name) (.name name)
  | field (reference : FieldRef) : Related relation (.field reference) (.field reference)
  | raw {first second : Fragment} :
      relation.related 0 first second → Related relation (.raw first) (.raw second)

/-- Settings that differ only in raw targets. -/
structure PlanSettings.Related (relation : FragmentRelation) (first second : PlanSettings) :
    Prop where
  groupBy : List.Forall₂ (Target.Related relation) first.groupBy second.groupBy
  orderBy : List.Forall₂
    (fun one two => Target.Related relation one.target two.target ∧ one.direction = two.direction)
    first.orderBy second.orderBy
  limit : first.limit = second.limit
  offset : first.offset = second.offset
  distinct : first.distinct = second.distinct
  locking : first.locking = second.locking
  takesFirst : first.first = second.first

mutual

/-- Two expressions of the same shape. -/
inductive Expr.Related (relation : FragmentRelation) : Nat → Expr → Expr → Prop
  | value {first second : Json} : Json.Literal relation.datum first second →
      Expr.Related relation 0 (.value first) (.value second)
  | list {weight : Nat} {items others : List Expr} : Expr.AllRelated relation weight items others →
      Expr.Related relation weight (.list items) (.list others)
  | field (reference : FieldRef) : Expr.Related relation 0 (.field reference) (.field reference)
  | column (name : String) : Expr.Related relation 0 (.column name) (.column name)
  | subquery {weights : Plan.Part → Nat} {plan other : Plan} :
      Plan.Related relation weights plan other →
      Expr.Related relation (Plan.Part.sum weights) (.subquery plan) (.subquery other)
  | raw {weight : Nat} {first second : Fragment} : relation.related weight first second →
      Expr.Related relation weight (.raw first) (.raw second)
  | condition {weight : Nat} {first second : Condition} :
      Condition.Related relation weight first second →
      Expr.Related relation weight (.condition first) (.condition second)
  | group (connective : Junction) {weight : Nat} {items others : List Expr} :
      Expr.AllRelated relation weight items others →
      Expr.Related relation weight (.group connective items) (.group connective others)
  | unbound : Expr.Related relation relation.slot .unbound .unbound

/-- Expressions that are related one by one. -/
inductive Expr.AllRelated (relation : FragmentRelation) : Nat → List Expr → List Expr → Prop
  | nil : Expr.AllRelated relation 0 [] []
  | cons {own others : Nat} {first second : Expr} {rest tail : List Expr} :
      Expr.Related relation own first second → Expr.AllRelated relation others rest tail →
      Expr.AllRelated relation (own + others) (first :: rest) (second :: tail)

/-- Two operands: bound values may differ in kind, or give way to a fragment. -/
inductive Expr.OperandRelated (relation : FragmentRelation) : Nat → Expr → Expr → Prop
  | within {weight : Nat} {first second : Expr} : Expr.Related relation weight first second →
      Expr.OperandRelated relation weight first second
  | value {first second : Json} : relation.datum first second →
      Expr.OperandRelated relation 0 (.value first) (.value second)
  | inlined {weight : Nat} {value : Json} {fragment : Fragment} :
      relation.related weight (.bound value) fragment →
      Expr.OperandRelated relation weight (.value value) (.raw fragment)

/-- Operands that are related one by one. -/
inductive Expr.AllOperandRelated (relation : FragmentRelation) :
    Nat → List Expr → List Expr → Prop
  | nil : Expr.AllOperandRelated relation 0 [] []
  | cons {own others : Nat} {first second : Expr} {rest tail : List Expr} :
      Expr.OperandRelated relation own first second →
      Expr.AllOperandRelated relation others rest tail →
      Expr.AllOperandRelated relation (own + others) (first :: rest) (second :: tail)

/-- Two conditions of the same shape.  Bounds past the second are not looked at, and each one that
is missing weighs as much as a slot. -/
inductive Condition.Related (relation : FragmentRelation) : Nat → Condition → Condition → Prop
  | nullTest (negated : Bool) {target other : Target} : Target.Related relation target other →
      Condition.Related relation 0 (.nullTest negated target) (.nullTest negated other)
  | compare (comparison : Comparison) {weight : Nat} {target other : Target}
      {operand opposite : Expr} : Target.Related relation target other →
      Expr.OperandRelated relation weight operand opposite →
      Condition.Related relation weight (.compare comparison target operand)
        (.compare comparison other opposite)
  | betweenNone {target other : Target} : Target.Related relation target other →
      Condition.Related relation (relation.slot + relation.slot) (.between target (.list []))
        (.between other (.list []))
  | betweenOne {weight : Nat} {target other : Target} {low bottom : Expr} :
      Target.Related relation target other → Expr.OperandRelated relation weight low bottom →
      Condition.Related relation (weight + relation.slot) (.between target (.list [low]))
        (.between other (.list [bottom]))
  | betweenTwo (rest tail : List Expr) {own others : Nat} {target other : Target}
      {low bottom high top : Expr} : Target.Related relation target other →
      Expr.OperandRelated relation own low bottom → Expr.OperandRelated relation others high top →
      Condition.Related relation (own + others) (.between target (.list (low :: high :: rest)))
        (.between other (.list (bottom :: top :: tail)))
  | betweenArray {target other : Target} {items others : List Json} :
      Target.Related relation target other → List.Forall₂ relation.datum items others →
      Condition.Related relation ((2 - items.length) * relation.slot)
        (.between target (.value (.array items))) (.between other (.value (.array others)))
  | between {weight : Nat} {target other : Target} {bounds opposite : Expr} :
      bounds.isOperandSet = false → Target.Related relation target other →
      Expr.Related relation weight bounds opposite →
      Condition.Related relation weight (.between target bounds) (.between other opposite)
  | isInList {weight : Nat} {target other : Target} {items others : List Expr} :
      Target.Related relation target other → Expr.AllOperandRelated relation weight items others →
      Condition.Related relation weight (.isIn target (.list items)) (.isIn other (.list others))
  | isInArray {target other : Target} {items others : List Json} :
      Target.Related relation target other → List.Forall₂ relation.datum items others →
      Condition.Related relation 0 (.isIn target (.value (.array items)))
        (.isIn other (.value (.array others)))
  | isIn {weight : Nat} {target other : Target} {choices opposite : Expr} :
      choices.isOperandSet = false → Target.Related relation target other →
      Expr.Related relation weight choices opposite →
      Condition.Related relation weight (.isIn target choices) (.isIn other opposite)
  | not {weight : Nat} {operand opposite : Expr} : Expr.Related relation weight operand opposite →
      Condition.Related relation weight (.not operand) (.not opposite)
  | exists {weight : Nat} {operand opposite : Expr} :
      Expr.Related relation weight operand opposite →
      Condition.Related relation weight (.exists operand) (.exists opposite)
  | quantified (quantifier : Quantifier) {weight : Nat} {target other : Option Target}
      {operand opposite : Expr} : Option.Rel (Target.Related relation) target other →
      Expr.Related relation weight operand opposite →
      Condition.Related relation weight (.quantified quantifier target operand)
        (.quantified quantifier other opposite)
  | junctionList (connective : Junction) {weight : Nat} {items others : List Expr} :
      Expr.AllRelated relation weight items others →
      Condition.Related relation weight (.junction connective (.list items))
        (.junction connective (.list others))
  | junction (connective : Junction) {weight : Nat} {operand opposite : Expr} :
      operand.isList = false → Expr.Related relation weight operand opposite →
      Condition.Related relation weight (.junction connective operand)
        (.junction connective opposite)

/-- Two sources of columns of the same shape. -/
inductive ColumnSource.Related (relation : FragmentRelation) :
    Nat → ColumnSource → ColumnSource → Prop
  | field (name : String) : ColumnSource.Related relation 0 (.field name) (.field name)
  | raw {weight : Nat} {first second : Fragment} : relation.related weight first second →
      ColumnSource.Related relation weight (.raw first) (.raw second)
  | subquery {weights : Plan.Part → Nat} {plan other : Plan} :
      Plan.Related relation weights plan other →
      ColumnSource.Related relation (Plan.Part.sum weights) (.subquery plan) (.subquery other)

/-- Columns with the same names and related sources. -/
inductive Column.AllRelated (relation : FragmentRelation) : Nat → List Column → List Column → Prop
  | nil : Column.AllRelated relation 0 [] []
  | cons (name : String) {own others : Nat} {source opposite : ColumnSource}
      {rest tail : List Column} : ColumnSource.Related relation own source opposite →
      Column.AllRelated relation others rest tail →
      Column.AllRelated relation (own + others) (⟨name, source⟩ :: rest) (⟨name, opposite⟩ :: tail)

/-- Two plans for the same entity under the same alias, related part by part. -/
inductive Plan.Related (relation : FragmentRelation) : (Plan.Part → Nat) → Plan → Plan → Prop
  | mk (entity : Entity) (tableAlias : Option String) {weights : Plan.Part → Nat}
      {columns fields : List Column} {filter restriction having condition : List Expr}
      {settings options : PlanSettings} {joins tables : List Join} :
      Column.AllRelated relation (weights .columns) columns fields →
      Join.AllRelated relation (weights .joinClauses) (weights .joinColumns) joins tables →
      Expr.AllRelated relation (weights .filter) filter restriction →
      Expr.AllRelated relation (weights .having) having condition →
      PlanSettings.Related relation settings options →
      Plan.Related relation weights
        ⟨entity, tableAlias, columns, filter, having, settings, joins⟩
        ⟨entity, tableAlias, fields, restriction, condition, options, tables⟩

/-- Joins of the same tables under the same names and on the same fields, with the weights of their
clauses and of their columns.  Only the columns and the filters of the joined queries are looked
at. -/
inductive Join.AllRelated (relation : FragmentRelation) :
    Nat → Nat → List Join → List Join → Prop
  | nil : Join.AllRelated relation 0 0 [] []
  | cons (kind : JoinKind) (entity : Entity) (tableAlias name : Option String)
      (pairs : List (String × String)) {shown clause others clauses : Nat}
      {columns fields : List Column} {filter restriction having condition : List Expr}
      {settings options : PlanSettings} {joins tables rest tail : List Join} :
      Column.AllRelated relation shown columns fields →
      Expr.AllRelated relation clause filter restriction →
      Join.AllRelated relation clauses others rest tail →
      Join.AllRelated relation (clause + clauses) (shown + others)
        (⟨kind, ⟨entity, tableAlias, columns, filter, having, settings, joins⟩, name, pairs⟩ ::
          rest)
        (⟨kind, ⟨entity, tableAlias, fields, restriction, condition, options, tables⟩, name,
          pairs⟩ :: tail)

end

variable {relation : FragmentRelation}

theorem Json.Literal.datum {first second : Json}
    (literal : Json.Literal relation.datum first second) :
    relation.datum first second := by
  cases literal with
  | array items => exact relation.array items
  | plain _ _ related => exact related

theorem Expr.isOperandSet_of_single {value : Json} (single : value.array? = none) :
    (Expr.value value).isOperandSet = false := by
  cases value <;> first | rfl | contradiction

namespace Expr.Related

variable {weight : Nat} {first second : Expr}

theorem isOperandSet_eq (related : Related relation weight first second) :
    second.isOperandSet = first.isOperandSet := by
  cases related with
  | value literal =>
      cases literal with
      | array => rfl
      | plain firstSingle secondSingle =>
          rw [isOperandSet_of_single firstSingle, isOperandSet_of_single secondSingle]
  | _ => rfl

theorem isEnclosed_eq (related : Related relation weight first second) :
    second.isEnclosed = first.isEnclosed := by
  cases related <;> rfl

theorem isList_eq (related : Related relation weight first second) :
    second.isList = first.isList := by
  cases related <;> rfl

end Expr.Related

theorem Expr.AllRelated.operands : ∀ {weight : Nat} {items others : List Expr},
    Expr.AllRelated relation weight items others →
    Expr.AllOperandRelated relation weight items others
  | _, _, _, .nil => .nil
  | _, _, _, .cons head tail => .cons (.within head) tail.operands

/-- However a membership test writes its choices, it is related when they are. -/
theorem Condition.Related.of_isIn {weight : Nat} {target other : Target}
    {choices opposite : Expr} (targets : Target.Related relation target other)
    (related : Expr.Related relation weight choices opposite) :
    Condition.Related relation weight (.isIn target choices) (.isIn other opposite) := by
  cases related with
  | value literal =>
      cases literal with
      | array items => exact .isInArray targets items
      | plain single twin pair =>
          exact .isIn (Expr.isOperandSet_of_single single) targets
            (.value (.plain single twin pair))
  | list items => exact .isInList targets items.operands
  | field reference => exact .isIn rfl targets (.field reference)
  | column name => exact .isIn rfl targets (.column name)
  | subquery plans => exact .isIn rfl targets (.subquery plans)
  | raw fragments => exact .isIn rfl targets (.raw fragments)
  | condition conditions => exact .isIn rfl targets (.condition conditions)
  | group connective items => exact .isIn rfl targets (.group connective items)
  | unbound => exact .isIn rfl targets .unbound

/-- Where nothing has a weight, a range is related to another one when their bounds are. -/
theorem Condition.Related.of_between {weight : Nat} {target other : Target}
    {bounds opposite : Expr} (slot : relation.slot = 0) (zero : weight = 0)
    (targets : Target.Related relation target other)
    (related : Expr.Related relation weight bounds opposite) :
    Condition.Related relation 0 (.between target bounds) (.between other opposite) := by
  cases related with
  | value literal =>
      cases literal with
      | array items => simpa [slot] using Condition.Related.betweenArray targets items
      | plain single twin pair =>
          exact .between (Expr.isOperandSet_of_single single) targets
            (.value (.plain single twin pair))
  | list items =>
      cases items with
      | nil => simpa [slot] using Condition.Related.betweenNone targets
      | cons low rest =>
          obtain ⟨lowZero, restZero⟩ := Nat.add_eq_zero_iff.1 zero
          cases rest with
          | nil => simpa [slot, lowZero] using Condition.Related.betweenOne targets (.within low)
          | @cons _ _ _ _ more further upper _ =>
              obtain ⟨highZero, -⟩ := Nat.add_eq_zero_iff.1 restZero
              simpa [lowZero, highZero] using
                Condition.Related.betweenTwo more further targets (.within low) (.within upper)
  | field reference => exact .between rfl targets (.field reference)
  | column name => exact .between rfl targets (.column name)
  | subquery plans => exact .between rfl targets (zero ▸ .subquery plans)
  | raw fragments => exact .between rfl targets (zero ▸ .raw fragments)
  | condition conditions => exact .between rfl targets (zero ▸ .condition conditions)
  | group connective items => exact .between rfl targets (zero ▸ .group connective items)
  | unbound => exact .between rfl targets (zero ▸ .unbound)

theorem Condition.Related.of_junction (connective : Junction) {weight : Nat}
    {operand opposite : Expr} (related : Expr.Related relation weight operand opposite) :
    Condition.Related relation weight (.junction connective operand)
      (.junction connective opposite) := by
  cases related with
  | list items => exact .junctionList connective items
  | value literal => exact .junction connective rfl (.value literal)
  | field reference => exact .junction connective rfl (.field reference)
  | column name => exact .junction connective rfl (.column name)
  | subquery plans => exact .junction connective rfl (.subquery plans)
  | raw fragments => exact .junction connective rfl (.raw fragments)
  | condition conditions => exact .junction connective rfl (.condition conditions)
  | group inner items => exact .junction connective rfl (.group inner items)
  | unbound => exact .junction connective rfl .unbound

/-- Of a joined query, the filter is in the clause and the columns are selected. -/
theorem Join.AllRelated.cons_of_plan (kind : JoinKind) (name : Option String)
    (pairs : List (String × String)) {weights : Plan.Part → Nat} {plan other : Plan}
    {clauses others : Nat} {rest tail : List Join}
    (plans : Plan.Related relation weights plan other)
    (rests : Join.AllRelated relation clauses others rest tail) :
    Join.AllRelated relation (weights .filter + clauses) (weights .columns + others)
      (⟨kind, plan, name, pairs⟩ :: rest) (⟨kind, other, name, pairs⟩ :: tail) := by
  cases plans with
  | mk entity tableAlias columns _ filter =>
      exact .cons kind entity tableAlias name pairs columns filter rests

/-- Either both lists hold nothing but bound values, which weigh nothing, or neither does. -/
theorem Expr.AllRelated.values? : ∀ {weight : Nat} {items others : List Expr},
    Expr.AllRelated relation weight items others →
    Option.Rel (fun values opposite => weight = 0 ∧ List.Forall₂ relation.datum values opposite)
      (Expr.values? items) (Expr.values? others)
  | _, _, _, .nil => .some ⟨rfl, .nil⟩
  | _, _ :: rest, _ :: tail, .cons head tails => by
      have rests := tails.values?
      cases head with
      | value literal =>
          simp only [Expr.values?]
          generalize Expr.values? rest = values at rests
          generalize Expr.values? tail = opposite at rests
          cases rests with
          | none => exact .none
          | some pair => exact .some ⟨by rw [pair.1], .cons literal.datum pair.2⟩
      | _ => exact .none

end EntityQuery

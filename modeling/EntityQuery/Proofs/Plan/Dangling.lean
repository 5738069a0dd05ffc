import EntityQuery.Proofs.Fragment.Balance
import EntityQuery.Proofs.Plan.Request

/-!
# Dangling slots

A dangling slot is a placeholder that gets no value: an unbound operand, a missing bound of a range,
or a field that a written row lacks.  Here they are counted on the plan and on the rows, for exactly
the parts that each statement contains.
-/

namespace EntityQuery

/-- The target is a column or a balanced fragment. -/
def Target.IsBalanced : Target → Prop
  | .name _ | .field _ => True
  | .raw fragment => fragment.Balanced 0

/-- All targets of the grouping and ordering clauses are balanced. -/
def PlanSettings.IsBalanced (settings : PlanSettings) : Prop :=
  (∀ target ∈ settings.groupBy, target.IsBalanced) ∧
    ∀ term ∈ settings.orderBy, term.target.IsBalanced

mutual

/-- Every raw fragment in the expression, and in the queries nested in it, is balanced by itself. -/
def Expr.IsBalanced : Expr → Prop
  | .value _ | .field _ | .column _ | .unbound => True
  | .list items | .group _ items => Expr.AreBalanced items
  | .subquery plan => plan.IsBalanced
  | .raw fragment => fragment.Balanced 0
  | .condition condition => condition.IsBalanced

def Expr.AreBalanced : List Expr → Prop
  | [] => True
  | item :: rest => item.IsBalanced ∧ Expr.AreBalanced rest

def Condition.IsBalanced : Condition → Prop
  | .nullTest _ target => target.IsBalanced
  | .compare _ target operand | .between target operand | .isIn target operand =>
      target.IsBalanced ∧ operand.IsBalanced
  | .quantified _ target operand => (∀ held ∈ target, held.IsBalanced) ∧ operand.IsBalanced
  | .not operand | .exists operand | .junction _ operand => operand.IsBalanced

def ColumnSource.IsBalanced : ColumnSource → Prop
  | .field _ => True
  | .raw fragment => fragment.Balanced 0
  | .subquery plan => plan.IsBalanced

def Column.IsBalanced : Column → Prop
  | ⟨_, source⟩ => source.IsBalanced

def Column.AreBalanced : List Column → Prop
  | [] => True
  | column :: rest => column.IsBalanced ∧ Column.AreBalanced rest

def Plan.IsBalanced : Plan → Prop
  | ⟨_, _, columns, filter, having, settings, joins⟩ =>
      Column.AreBalanced columns ∧ Expr.AreBalanced filter ∧ Expr.AreBalanced having ∧
        settings.IsBalanced ∧ Join.AreBalanced joins

def Join.IsBalanced : Join → Prop
  | ⟨_, plan, _, _⟩ => plan.IsBalanced

def Join.AreBalanced : List Join → Prop
  | [] => True
  | join :: rest => join.IsBalanced ∧ Join.AreBalanced rest

end

mutual

/-- The dangling slots of an expression as it is rendered. -/
def Expr.dangling : Expr → Nat
  | .value _ | .field _ | .column _ | .raw _ => 0
  | .list items | .group _ items => Expr.danglingAll items
  | .subquery plan => plan.dangling
  | .condition condition => condition.dangling
  | .unbound => 1

def Expr.danglingAll : List Expr → Nat
  | [] => 0
  | item :: rest => item.dangling + Expr.danglingAll rest

/-- The dangling slots of a condition.  A range renders two bounds: further ones do not count, and
each one that is missing counts as one. -/
def Condition.dangling : Condition → Nat
  | .nullTest _ _ => 0
  | .between _ (.list []) => 2
  | .between _ (.list [low]) => low.dangling + 1
  | .between _ (.list (low :: high :: _)) => low.dangling + high.dangling
  | .between _ (.value (.array items)) => 2 - items.length
  | .compare _ _ operand | .between _ operand | .isIn _ operand | .not operand
  | .exists operand | .quantified _ _ operand | .junction _ operand => operand.dangling

def ColumnSource.dangling : ColumnSource → Nat
  | .field _ | .raw _ => 0
  | .subquery plan => plan.dangling

def Column.dangling : Column → Nat
  | ⟨_, source⟩ => source.dangling

def Column.danglingAll : List Column → Nat
  | [] => 0
  | column :: rest => column.dangling + Column.danglingAll rest

/-- The dangling slots of the SELECT statement of a plan. -/
def Plan.dangling : Plan → Nat
  | ⟨_, _, columns, filter, having, _, joins⟩ =>
      Column.danglingAll columns + Join.columnDanglingAll joins + Join.clauseDanglingAll joins +
        Expr.danglingAll filter + Expr.danglingAll having

/-- The dangling slots of the clause of a join. -/
def Join.clauseDangling : Join → Nat
  | ⟨_, ⟨_, _, _, filter, _, _, _⟩, _, _⟩ => Expr.danglingAll filter

/-- The dangling slots of the columns that are selected from a join. -/
def Join.columnDangling : Join → Nat
  | ⟨_, ⟨_, _, columns, _, _, _, _⟩, _, _⟩ => Column.danglingAll columns

def Join.clauseDanglingAll : List Join → Nat
  | [] => 0
  | join :: rest => join.clauseDangling + Join.clauseDanglingAll rest

def Join.columnDanglingAll : List Join → Nat
  | [] => 0
  | join :: rest => join.columnDangling + Join.columnDanglingAll rest

end

theorem Condition.dangling_between_of_single {target : Target} {bounds : Expr}
    (single : bounds.isOperandSet = false) :
    (Condition.between target bounds).dangling = bounds.dangling := by
  cases bounds with
  | list items => simp [Expr.isOperandSet] at single
  | value held => cases held <;> first | rfl | simp [Expr.isOperandSet] at single
  | _ => rfl

/-- The dangling slots of a part of the plan. -/
def Plan.danglingIn (plan : Plan) : Plan.Part → Nat
  | .columns => Column.danglingAll plan.columns
  | .joinColumns => Join.columnDanglingAll plan.joins
  | .joinClauses => Join.clauseDanglingAll plan.joins
  | .filter => Expr.danglingAll plan.filter
  | .having => Expr.danglingAll plan.having

theorem Plan.dangling_eq_sum (plan : Plan) : plan.dangling = Plan.Part.sum plan.danglingIn := by
  cases plan
  rfl

def InsertSource.IsBalanced : InsertSource → Prop
  | .query plan => plan.IsBalanced
  | .raw fragment => fragment.Balanced 0

def InsertSource.dangling : InsertSource → Nat
  | .query plan => plan.dangling
  | .raw _ => 0

namespace StatementRequest

def IsBalanced : StatementRequest → Prop
  | .insertFrom source => source.IsBalanced
  | _ => True

def sourceDangling : StatementRequest → Nat
  | .insertFrom source => source.dangling
  | _ => 0

/-- The dangling slots in the parts of the plan and of the request that the statement contains. -/
def dangling (request : StatementRequest) (plan : Plan) : Nat :=
  request.total plan.danglingIn + request.sourceDangling + request.lackingFields plan.entity

end StatementRequest

end EntityQuery

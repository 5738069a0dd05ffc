import EntityQuery.Proofs.Plan.Dangling

/-!
# Plans related to themselves

A relation that holds between every balanced fragment and itself holds between every balanced plan
and itself.  The plan weighs as much as its dangling slots.
-/

namespace EntityQuery

variable {relation : FragmentRelation}

theorem Json.literal_self (reflexive : relation.IsReflexive) (value : Json) :
    Json.Literal relation.datum value value := by
  cases value with
  | array items => exact .array (List.forall₂_same.2 fun item _ => reflexive.datum item)
  | _ => exact .plain rfl rfl (reflexive.datum _)

theorem Target.related_self (reflexive : relation.IsReflexive) {target : Target}
    (balanced : target.IsBalanced) : Target.Related relation target target := by
  cases target with
  | name name => exact .name name
  | field reference => exact .field reference
  | raw fragment => exact .raw (reflexive.balanced balanced)

theorem Target.related_self_option (reflexive : relation.IsReflexive) {target : Option Target}
    (balanced : ∀ held ∈ target, held.IsBalanced) :
    Option.Rel (Target.Related relation) target target := by
  cases target with
  | none => exact .none
  | some held => exact .some (Target.related_self reflexive (balanced held rfl))

theorem PlanSettings.related_self (reflexive : relation.IsReflexive) {settings : PlanSettings}
    (balanced : settings.IsBalanced) : PlanSettings.Related relation settings settings where
  groupBy := List.forall₂_same.2 fun target member =>
    Target.related_self reflexive (balanced.1 target member)
  orderBy := List.forall₂_same.2 fun term member =>
    ⟨Target.related_self reflexive (balanced.2 term member), rfl⟩
  limit := rfl
  offset := rfl
  distinct := rfl
  locking := rfl
  takesFirst := rfl

mutual

theorem Expr.related_self (reflexive : relation.IsReflexive) : ∀ expr : Expr, expr.IsBalanced →
    Expr.Related relation (expr.dangling * relation.slot) expr expr
  | .value held, _ => by
      simpa [Expr.dangling] using Expr.Related.value (Json.literal_self reflexive held)
  | .list items, balanced => .list (Expr.allRelated_self reflexive items balanced)
  | .field reference, _ => by simpa [Expr.dangling] using Expr.Related.field reference
  | .column name, _ => by simpa [Expr.dangling] using Expr.Related.column name
  | .subquery plan, balanced => by
      have plans := Expr.Related.subquery (Plan.related_self reflexive plan balanced)
      rwa [Plan.Part.sum_mul, ← Plan.dangling_eq_sum] at plans
  | .raw fragment, balanced => by
      simpa [Expr.dangling] using Expr.Related.raw (reflexive.balanced balanced)
  | .condition condition, balanced =>
      .condition (Condition.related_self reflexive condition balanced)
  | .group connective items, balanced =>
      .group connective (Expr.allRelated_self reflexive items balanced)
  | .unbound, _ => by simpa [Expr.dangling] using Expr.Related.unbound

theorem Expr.allRelated_self (reflexive : relation.IsReflexive) : ∀ items : List Expr,
    Expr.AreBalanced items →
    Expr.AllRelated relation (Expr.danglingAll items * relation.slot) items items
  | [], _ => by simpa [Expr.danglingAll] using Expr.AllRelated.nil
  | item :: rest, balanced => by
      have both := Expr.AllRelated.cons (Expr.related_self reflexive item balanced.1)
        (Expr.allRelated_self reflexive rest balanced.2)
      simpa only [Expr.danglingAll, Nat.add_mul] using both

theorem Condition.related_self (reflexive : relation.IsReflexive) : ∀ condition : Condition,
    condition.IsBalanced →
    Condition.Related relation (condition.dangling * relation.slot) condition condition
  | .nullTest negated target, balanced => by
      simpa [Condition.dangling] using
        Condition.Related.nullTest negated (Target.related_self reflexive balanced)
  | .compare comparison target operand, balanced =>
      .compare comparison (Target.related_self reflexive balanced.1)
        (.within (Expr.related_self reflexive operand balanced.2))
  | .between target bounds, balanced => by
      have targets := Target.related_self reflexive balanced.1
      cases bounds with
      | list items =>
          match items with
          | [] =>
              simpa [Condition.dangling, Nat.two_mul] using Condition.Related.betweenNone targets
          | [low] =>
              have lower := Expr.related_self reflexive low balanced.2.1
              simpa [Condition.dangling, Nat.add_mul] using
                Condition.Related.betweenOne targets (.within lower)
          | low :: high :: rest =>
              have lower := Expr.related_self reflexive low balanced.2.1
              have upper := Expr.related_self reflexive high balanced.2.2.1
              simpa [Condition.dangling, Nat.add_mul] using
                Condition.Related.betweenTwo rest rest targets (.within lower) (.within upper)
      | value held =>
          cases held with
          | array items =>
              exact .betweenArray targets (List.forall₂_same.2 fun item _ => reflexive.datum item)
          | _ => exact .between rfl targets (Expr.related_self reflexive _ balanced.2)
      | _ => exact .between rfl targets (Expr.related_self reflexive _ balanced.2)
  | .isIn target choices, balanced =>
      .of_isIn (Target.related_self reflexive balanced.1)
        (Expr.related_self reflexive choices balanced.2)
  | .not operand, balanced => .not (Expr.related_self reflexive operand balanced)
  | .exists operand, balanced => .exists (Expr.related_self reflexive operand balanced)
  | .quantified quantifier target operand, balanced =>
      .quantified quantifier (Target.related_self_option reflexive balanced.1)
        (Expr.related_self reflexive operand balanced.2)
  | .junction connective operand, balanced =>
      .of_junction connective (Expr.related_self reflexive operand balanced)

theorem ColumnSource.related_self (reflexive : relation.IsReflexive) :
    ∀ source : ColumnSource, source.IsBalanced →
    ColumnSource.Related relation (source.dangling * relation.slot) source source
  | .field name, _ => by simpa [ColumnSource.dangling] using ColumnSource.Related.field name
  | .raw fragment, balanced => by
      simpa [ColumnSource.dangling] using ColumnSource.Related.raw (reflexive.balanced balanced)
  | .subquery plan, balanced => by
      have plans := ColumnSource.Related.subquery (Plan.related_self reflexive plan balanced)
      rwa [Plan.Part.sum_mul, ← Plan.dangling_eq_sum] at plans

theorem Column.allRelated_self (reflexive : relation.IsReflexive) :
    ∀ columns : List Column, Column.AreBalanced columns →
    Column.AllRelated relation (Column.danglingAll columns * relation.slot) columns columns
  | [], _ => by simpa [Column.danglingAll] using Column.AllRelated.nil
  | ⟨name, source⟩ :: rest, balanced => by
      have both := Column.AllRelated.cons name
        (ColumnSource.related_self reflexive source balanced.1)
        (Column.allRelated_self reflexive rest balanced.2)
      simpa only [Column.danglingAll, Column.dangling, Nat.add_mul] using both

theorem Plan.related_self (reflexive : relation.IsReflexive) : ∀ plan : Plan, plan.IsBalanced →
    Plan.Related relation (fun part => plan.danglingIn part * relation.slot) plan plan
  | ⟨entity, tableAlias, columns, filter, having, _, joins⟩, balanced =>
      .mk entity tableAlias (Column.allRelated_self reflexive columns balanced.1)
        (Join.allRelated_self reflexive joins balanced.2.2.2.2)
        (Expr.allRelated_self reflexive filter balanced.2.1)
        (Expr.allRelated_self reflexive having balanced.2.2.1)
        (PlanSettings.related_self reflexive balanced.2.2.2.1)

theorem Join.allRelated_self (reflexive : relation.IsReflexive) : ∀ joins : List Join,
    Join.AreBalanced joins →
    Join.AllRelated relation (Join.clauseDanglingAll joins * relation.slot)
      (Join.columnDanglingAll joins * relation.slot) joins joins
  | [], _ => by
      simpa [Join.clauseDanglingAll, Join.columnDanglingAll] using Join.AllRelated.nil
  | ⟨kind, ⟨entity, tableAlias, columns, filter, having, settings, joins⟩, name, pairs⟩ :: rest,
      balanced => by
      have both : Join.AllRelated relation _ _
          (⟨kind, ⟨entity, tableAlias, columns, filter, having, settings, joins⟩, name, pairs⟩ ::
            rest)
          (⟨kind, ⟨entity, tableAlias, columns, filter, having, settings, joins⟩, name, pairs⟩ ::
            rest) :=
        .cons kind entity tableAlias name pairs
          (Column.allRelated_self reflexive columns balanced.1.1)
          (Expr.allRelated_self reflexive filter balanced.1.2.1)
          (Join.allRelated_self reflexive rest balanced.2)
      simpa only [Join.clauseDanglingAll, Join.columnDanglingAll, Join.clauseDangling,
        Join.columnDangling, Nat.add_mul] using both

end

theorem InsertSource.related_self (reflexive : relation.IsReflexive) {source : InsertSource}
    (balanced : source.IsBalanced) :
    InsertSource.Related relation (source.dangling * relation.slot) source source := by
  cases source with
  | query plan =>
      have plans := InsertSource.Related.query (Plan.related_self reflexive plan balanced)
      rwa [Plan.Part.sum_mul, ← Plan.dangling_eq_sum] at plans
  | raw fragment =>
      simpa [InsertSource.dangling] using InsertSource.Related.raw (reflexive.balanced balanced)

theorem Record.related_self (reflexive : relation.IsReflexive) (record : Record) :
    Record.Related relation.datum record record :=
  List.forall₂_same.2 fun entry _ => ⟨rfl, reflexive.datum entry.2⟩

theorem StatementRequest.related_self (reflexive : relation.IsReflexive)
    {request : StatementRequest} (balanced : request.IsBalanced) :
    StatementRequest.Related relation (request.sourceDangling * relation.slot) request request := by
  have rows (records : List Record) :
      List.Forall₂ (Record.Related relation.datum) records records :=
    List.forall₂_same.2 fun record _ => Record.related_self reflexive record
  cases request with
  | select => simpa [sourceDangling] using StatementRequest.Related.select
  | count => simpa [sourceDangling] using StatementRequest.Related.count
  | insert records => simpa [sourceDangling] using StatementRequest.Related.insert (rows records)
  | insertFrom source => exact .insertFrom (InsertSource.related_self reflexive balanced)
  | update record =>
      simpa [sourceDangling] using
        StatementRequest.Related.update (Record.related_self reflexive record)
  | updateBatch records =>
      simpa [sourceDangling] using StatementRequest.Related.updateBatch (rows records)
  | delete => simpa [sourceDangling] using StatementRequest.Related.delete

end EntityQuery

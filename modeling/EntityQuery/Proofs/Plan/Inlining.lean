import EntityQuery.Proofs.Fragment.Inlining
import EntityQuery.Proofs.Plan.SelfRelated

/-!
# Inlining one literal of a plan

A literal that a comparison, a membership test or a range binds by itself may be written into the
text instead.  One such literal is replaced here, anywhere in the tree; everything around it stays
as it is.
-/

namespace EntityQuery

mutual

/-- The second expression is the first one with one literal somewhere inside it inlined. -/
inductive Expr.Inlines (literal : Json) (text : String) : Expr → Expr → Prop
  | list (before after : List Expr) {item other : Expr} : Expr.Inlines literal text item other →
      Expr.Inlines literal text (.list (before ++ item :: after)) (.list (before ++ other :: after))
  | group (connective : Junction) (before after : List Expr) {item other : Expr} :
      Expr.Inlines literal text item other →
      Expr.Inlines literal text (.group connective (before ++ item :: after))
        (.group connective (before ++ other :: after))
  | subquery {part : Plan.Part} {plan other : Plan} : Plan.Inlines literal text part plan other →
      Expr.Inlines literal text (.subquery plan) (.subquery other)
  | condition {condition other : Condition} : Condition.Inlines literal text condition other →
      Expr.Inlines literal text (.condition condition) (.condition other)

/-- The operand is the literal, or the literal is somewhere inside it. -/
inductive Expr.OperandInlines (literal : Json) (text : String) : Expr → Expr → Prop
  | here : Expr.OperandInlines literal text (.value literal) (.raw (.ofText text))
  | within {operand other : Expr} : Expr.Inlines literal text operand other →
      Expr.OperandInlines literal text operand other

/-- The second condition is the first one with one literal inlined: the operand of a comparison, an
item of an operand list, one of the two bounds of a range, or one somewhere inside of these. -/
inductive Condition.Inlines (literal : Json) (text : String) : Condition → Condition → Prop
  | compare (comparison : Comparison) (target : Target) {operand other : Expr} :
      Expr.OperandInlines literal text operand other →
      Condition.Inlines literal text (.compare comparison target operand)
        (.compare comparison target other)
  | betweenLow (target : Target) (rest : List Expr) {low other : Expr} :
      Expr.OperandInlines literal text low other →
      Condition.Inlines literal text (.between target (.list (low :: rest)))
        (.between target (.list (other :: rest)))
  | betweenHigh (target : Target) (low : Expr) (rest : List Expr) {high other : Expr} :
      Expr.OperandInlines literal text high other →
      Condition.Inlines literal text (.between target (.list (low :: high :: rest)))
        (.between target (.list (low :: other :: rest)))
  | between (target : Target) {bounds other : Expr} : bounds.isOperandSet = false →
      Expr.Inlines literal text bounds other →
      Condition.Inlines literal text (.between target bounds) (.between target other)
  | isInList (target : Target) (before after : List Expr) {item other : Expr} :
      Expr.OperandInlines literal text item other →
      Condition.Inlines literal text (.isIn target (.list (before ++ item :: after)))
        (.isIn target (.list (before ++ other :: after)))
  | isIn (target : Target) {choices other : Expr} : choices.isOperandSet = false →
      Expr.Inlines literal text choices other →
      Condition.Inlines literal text (.isIn target choices) (.isIn target other)
  | not {operand other : Expr} : Expr.Inlines literal text operand other →
      Condition.Inlines literal text (.not operand) (.not other)
  | exists {operand other : Expr} : Expr.Inlines literal text operand other →
      Condition.Inlines literal text (.exists operand) (.exists other)
  | quantified (quantifier : Quantifier) (target : Option Target) {operand other : Expr} :
      Expr.Inlines literal text operand other →
      Condition.Inlines literal text (.quantified quantifier target operand)
        (.quantified quantifier target other)
  | junction (connective : Junction) {operand other : Expr} :
      Expr.Inlines literal text operand other →
      Condition.Inlines literal text (.junction connective operand) (.junction connective other)

/-- The second plan is the first one with one literal of a part inlined. -/
inductive Plan.Inlines (literal : Json) (text : String) : Plan.Part → Plan → Plan → Prop
  | column (plan : Plan) (before after : List Column) (name : String) {part : Plan.Part}
      {nested other : Plan} : Plan.Inlines literal text part nested other →
      Plan.Inlines literal text .columns
        { plan with columns := before ++ ⟨name, .subquery nested⟩ :: after }
        { plan with columns := before ++ ⟨name, .subquery other⟩ :: after }
  | joinColumn (plan : Plan) (before after : List Join) (kind : JoinKind) (joined : Plan)
      (name : Option String) (pairs : List (String × String)) {other : Plan} :
      Plan.Inlines literal text .columns joined other →
      Plan.Inlines literal text .joinColumns
        { plan with joins := before ++ ⟨kind, joined, name, pairs⟩ :: after }
        { plan with joins := before ++ ⟨kind, other, name, pairs⟩ :: after }
  | joinClause (plan : Plan) (before after : List Join) (kind : JoinKind) (joined : Plan)
      (name : Option String) (pairs : List (String × String)) {other : Plan} :
      Plan.Inlines literal text .filter joined other →
      Plan.Inlines literal text .joinClauses
        { plan with joins := before ++ ⟨kind, joined, name, pairs⟩ :: after }
        { plan with joins := before ++ ⟨kind, other, name, pairs⟩ :: after }
  | filter (plan : Plan) (before after : List Expr) {item other : Expr} :
      Expr.Inlines literal text item other →
      Plan.Inlines literal text .filter { plan with filter := before ++ item :: after }
        { plan with filter := before ++ other :: after }
  | having (plan : Plan) (before after : List Expr) {item other : Expr} :
      Expr.Inlines literal text item other →
      Plan.Inlines literal text .having { plan with having := before ++ item :: after }
        { plan with having := before ++ other :: after }

end

section Around

variable {relation : FragmentRelation} {extra : Nat}

/-- Expressions that are related to themselves but for one of them, which may weigh more than its
dangling slots. -/
theorem Expr.allRelated_around (reflexive : relation.IsReflexive) {item other : Expr}
    {before after : List Expr} (balanced : Expr.AreBalanced (before ++ item :: after))
    (changed : item.IsBalanced →
      Expr.Related relation (item.dangling * relation.slot + extra) item other) :
    Expr.AllRelated relation (Expr.danglingAll (before ++ item :: after) * relation.slot + extra)
      (before ++ item :: after) (before ++ other :: after) := by
  induction before with
  | nil =>
      have both := Expr.AllRelated.cons (changed balanced.1)
        (Expr.allRelated_self reflexive after balanced.2)
      rw [List.nil_append, Expr.danglingAll, Nat.add_mul, Nat.add_right_comm]
      exact both
  | cons first rest ih =>
      have both := Expr.AllRelated.cons (Expr.related_self reflexive first balanced.1)
        (ih balanced.2)
      rw [List.cons_append, Expr.danglingAll, Nat.add_mul, Nat.add_assoc]
      exact both

theorem Expr.allOperandRelated_around (reflexive : relation.IsReflexive) {item other : Expr}
    {before after : List Expr} (balanced : Expr.AreBalanced (before ++ item :: after))
    (changed : item.IsBalanced →
      Expr.OperandRelated relation (item.dangling * relation.slot + extra) item other) :
    Expr.AllOperandRelated relation
      (Expr.danglingAll (before ++ item :: after) * relation.slot + extra)
      (before ++ item :: after) (before ++ other :: after) := by
  induction before with
  | nil =>
      have both := Expr.AllOperandRelated.cons (changed balanced.1)
        (Expr.allRelated_self reflexive after balanced.2).operands
      rw [List.nil_append, Expr.danglingAll, Nat.add_mul, Nat.add_right_comm]
      exact both
  | cons first rest ih =>
      have both := Expr.AllOperandRelated.cons
        (.within (Expr.related_self reflexive first balanced.1))
        (ih balanced.2)
      rw [List.cons_append, Expr.danglingAll, Nat.add_mul, Nat.add_assoc]
      exact both

theorem Column.allRelated_around (reflexive : relation.IsReflexive) {name : String}
    {source other : ColumnSource} {before after : List Column}
    (balanced : Column.AreBalanced (before ++ ⟨name, source⟩ :: after))
    (changed : source.IsBalanced →
      ColumnSource.Related relation (source.dangling * relation.slot + extra) source other) :
    Column.AllRelated relation
      (Column.danglingAll (before ++ ⟨name, source⟩ :: after) * relation.slot + extra)
      (before ++ ⟨name, source⟩ :: after) (before ++ ⟨name, other⟩ :: after) := by
  induction before with
  | nil =>
      have both := Column.AllRelated.cons name (changed balanced.1)
        (Column.allRelated_self reflexive after balanced.2)
      rw [List.nil_append, Column.danglingAll, Nat.add_mul, Nat.add_right_comm]
      exact both
  | cons first rest ih =>
      obtain ⟨firstName, firstSource⟩ := first
      have both := Column.AllRelated.cons firstName
        (ColumnSource.related_self reflexive firstSource balanced.1) (ih balanced.2)
      rw [List.cons_append, Column.danglingAll, Nat.add_mul, Nat.add_assoc]
      exact both

theorem Join.allRelated_around (reflexive : relation.IsReflexive) {kind : JoinKind}
    {name : Option String} {pairs : List (String × String)} {joined other : Plan}
    {extras : Plan.Part → Nat} {before after : List Join}
    (balanced : Join.AreBalanced (before ++ ⟨kind, joined, name, pairs⟩ :: after))
    (changed : joined.IsBalanced → Plan.Related relation
      (fun part => joined.danglingIn part * relation.slot + extras part) joined other) :
    Join.AllRelated relation
      (Join.clauseDanglingAll (before ++ ⟨kind, joined, name, pairs⟩ :: after) * relation.slot +
        extras .filter)
      (Join.columnDanglingAll (before ++ ⟨kind, joined, name, pairs⟩ :: after) * relation.slot +
        extras .columns)
      (before ++ ⟨kind, joined, name, pairs⟩ :: after)
      (before ++ ⟨kind, other, name, pairs⟩ :: after) := by
  induction before with
  | nil =>
      have both := Join.AllRelated.cons_of_plan kind name pairs (changed balanced.1)
        (Join.allRelated_self reflexive after balanced.2)
      cases joined
      rw [List.nil_append, Join.clauseDanglingAll, Join.columnDanglingAll, Nat.add_mul, Nat.add_mul,
        Nat.add_right_comm, Nat.add_right_comm (Join.columnDangling _ * _)]
      exact both
  | cons first rest ih =>
      obtain ⟨firstKind, firstPlan, firstName, firstPairs⟩ := first
      have both := Join.AllRelated.cons_of_plan firstKind firstName firstPairs
        (Plan.related_self reflexive firstPlan balanced.1) (ih balanced.2)
      cases firstPlan
      rw [List.cons_append, Join.clauseDanglingAll, Join.columnDanglingAll, Nat.add_mul,
        Nat.add_mul, Nat.add_assoc, Nat.add_assoc (Join.columnDangling _ * _)]
      exact both

end Around

section Inlining

open FragmentRelation

variable {literal : Json} {text : String} (nonempty : text ≠ "")

theorem Plan.Part.sum_single (weights : Plan.Part → Nat) (part : Plan.Part) :
    Plan.Part.sum (fun other => weights other * 2 + if other = part then 1 else 0) =
      Plan.Part.sum weights * 2 + 1 := by
  cases part <;> simp [Plan.Part.sum] <;> omega

mutual

/-- Inlining a literal weighs one more than the slots that dangle anyway. -/
theorem Expr.Inlines.related : ∀ {expr other : Expr}, Expr.Inlines literal text expr other →
    expr.IsBalanced →
    Expr.Related (.inlining literal nonempty) (expr.dangling * 2 + 1) expr other
  | _, _, .list before after inlines, balanced => by
      have reflexive := inlining_isReflexive literal nonempty
      exact .list (Expr.allRelated_around reflexive balanced inlines.related)
  | _, _, .group connective before after inlines, balanced => by
      have reflexive := inlining_isReflexive literal nonempty
      exact .group connective (Expr.allRelated_around reflexive balanced inlines.related)
  | _, _, .subquery inlines, balanced => by
      have plans := Expr.Related.subquery (inlines.related balanced)
      rwa [Plan.Part.sum_single, ← Plan.dangling_eq_sum] at plans
  | _, _, .condition inlines, balanced => .condition (inlines.related balanced)

theorem Expr.OperandInlines.related : ∀ {expr other : Expr},
    Expr.OperandInlines literal text expr other → expr.IsBalanced →
    Expr.OperandRelated (.inlining literal nonempty) (expr.dangling * 2 + 1) expr other
  | _, _, .here, _ => .inlined .here
  | _, _, .within inlines, balanced => .within (inlines.related balanced)

theorem Condition.Inlines.related : ∀ {condition other : Condition},
    Condition.Inlines literal text condition other → condition.IsBalanced →
    Condition.Related (.inlining literal nonempty) (condition.dangling * 2 + 1) condition other
  | _, _, .compare comparison target inlines, balanced => by
      have targets := Target.related_self (inlining_isReflexive literal nonempty) balanced.1
      exact .compare comparison targets (inlines.related balanced.2)
  | _, _, .betweenLow target rest inlines, balanced => by
      have reflexive := inlining_isReflexive literal nonempty
      have targets := Target.related_self reflexive balanced.1
      have lower := inlines.related balanced.2.1
      cases rest with
      | nil =>
          have range := Condition.Related.betweenOne targets lower
          rw [Nat.add_right_comm] at range
          simpa [Condition.dangling, Nat.add_mul] using range
      | cons high rest =>
          have upper := Expr.related_self reflexive high balanced.2.2.1
          have range := Condition.Related.betweenTwo rest rest targets lower (.within upper)
          rw [Nat.add_right_comm] at range
          simpa [Condition.dangling, Nat.add_mul] using range
  | _, _, .betweenHigh target low rest inlines, balanced => by
      have reflexive := inlining_isReflexive literal nonempty
      have targets := Target.related_self reflexive balanced.1
      have lower := Expr.related_self reflexive low balanced.2.1
      have range := Condition.Related.betweenTwo rest rest targets
        (.within lower) (inlines.related balanced.2.2.1)
      rw [← Nat.add_assoc] at range
      simpa [Condition.dangling, Nat.add_mul] using range
  | _, _, .between target single inlines, balanced => by
      have targets := Target.related_self (inlining_isReflexive literal nonempty) balanced.1
      rw [Condition.dangling_between_of_single single]
      exact .between single targets (inlines.related balanced.2)
  | _, _, .isInList target before after inlines, balanced => by
      have reflexive := inlining_isReflexive literal nonempty
      have targets := Target.related_self reflexive balanced.1
      exact .isInList targets
        (Expr.allOperandRelated_around reflexive balanced.2 inlines.related)
  | _, _, .isIn target single inlines, balanced => by
      have targets := Target.related_self (inlining_isReflexive literal nonempty) balanced.1
      exact .isIn single targets (inlines.related balanced.2)
  | _, _, .not inlines, balanced => .not (inlines.related balanced)
  | _, _, .exists inlines, balanced => .exists (inlines.related balanced)
  | _, _, .quantified quantifier target inlines, balanced => by
      have targets := Target.related_self_option (inlining_isReflexive literal nonempty) balanced.1
      exact .quantified quantifier targets (inlines.related balanced.2)
  | _, _, .junction connective inlines, balanced =>
      .of_junction connective (inlines.related balanced)

theorem Plan.Inlines.related : ∀ {part : Plan.Part} {plan other : Plan},
    Plan.Inlines literal text part plan other → plan.IsBalanced →
    Plan.Related (.inlining literal nonempty)
      (fun other => plan.danglingIn other * 2 + if other = part then 1 else 0) plan other
  | _, _, _, .column plan before after name inlines, balanced => by
      have reflexive := inlining_isReflexive literal nonempty
      cases plan
      obtain ⟨columns, filter, having, settings, joins⟩ := balanced
      refine .mk _ _ (Column.allRelated_around reflexive columns fun sourceBalanced => ?_)
        (Join.allRelated_self reflexive _ joins) (Expr.allRelated_self reflexive _ filter)
        (Expr.allRelated_self reflexive _ having) (PlanSettings.related_self reflexive settings)
      have plans := ColumnSource.Related.subquery (inlines.related sourceBalanced)
      rwa [Plan.Part.sum_single, ← Plan.dangling_eq_sum] at plans
  | _, _, _, .joinColumn plan before after kind joined name pairs inlines, balanced => by
      have reflexive := inlining_isReflexive literal nonempty
      cases plan
      obtain ⟨columns, filter, having, settings, joins⟩ := balanced
      exact .mk _ _ (Column.allRelated_self reflexive _ columns)
        (Join.allRelated_around reflexive joins inlines.related)
        (Expr.allRelated_self reflexive _ filter) (Expr.allRelated_self reflexive _ having)
        (PlanSettings.related_self reflexive settings)
  | _, _, _, .joinClause plan before after kind joined name pairs inlines, balanced => by
      have reflexive := inlining_isReflexive literal nonempty
      cases plan
      obtain ⟨columns, filter, having, settings, joins⟩ := balanced
      exact .mk _ _ (Column.allRelated_self reflexive _ columns)
        (Join.allRelated_around reflexive joins inlines.related)
        (Expr.allRelated_self reflexive _ filter) (Expr.allRelated_self reflexive _ having)
        (PlanSettings.related_self reflexive settings)
  | _, _, _, .filter plan before after inlines, balanced => by
      have reflexive := inlining_isReflexive literal nonempty
      cases plan
      obtain ⟨columns, filter, having, settings, joins⟩ := balanced
      exact .mk _ _ (Column.allRelated_self reflexive _ columns)
        (Join.allRelated_self reflexive _ joins)
        (Expr.allRelated_around reflexive filter inlines.related)
        (Expr.allRelated_self reflexive _ having) (PlanSettings.related_self reflexive settings)
  | _, _, _, .having plan before after inlines, balanced => by
      have reflexive := inlining_isReflexive literal nonempty
      cases plan
      obtain ⟨columns, filter, having, settings, joins⟩ := balanced
      exact .mk _ _ (Column.allRelated_self reflexive _ columns)
        (Join.allRelated_self reflexive _ joins) (Expr.allRelated_self reflexive _ filter)
        (Expr.allRelated_around reflexive having inlines.related)
        (PlanSettings.related_self reflexive settings)

end

end Inlining

end EntityQuery

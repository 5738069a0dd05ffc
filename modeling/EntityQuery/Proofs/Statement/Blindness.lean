import EntityQuery.Proofs.Plan.Alike
import EntityQuery.Proofs.Statement.Alignment

/-!
# Bound values never reach the text

Formatting looks at a bound value only to tell arrays from other values, and to take operand sets
apart.  So plans that differ in bound values fail with the same error, or give statements with the
same text and the same aliases, and with corresponding values at every index.
-/

namespace EntityQuery

open Outcome

variable {related : Json → Json → Prop}

theorem Json.Literal.corresponding {first second : Json}
    (literal : Json.Literal related first second) :
    Json.Literal (Json.Corresponds related) first second := by
  cases literal with
  | array items => exact .array (items.imp fun _ _ => .datum)
  | plain firstSingle secondSingle pair => exact .plain firstSingle secondSingle (.datum pair)

theorem Fragment.Alike.blind {first second : Fragment}
    (alike : Fragment.Alike related first second) :
    (FragmentRelation.blind related).related 0 first second :=
  ⟨rfl, alike.text, alike.values.imp fun _ _ => .datum⟩

theorem Record.Related.blind {record other : Record} (alike : Record.Related related record other) :
    Record.Related (Json.Corresponds related) record other :=
  alike.imp fun _ _ entries => ⟨entries.1, .datum entries.2⟩

theorem Target.Alike.blind {target other : Target} (alike : Target.Alike related target other) :
    Target.Related (.blind related) target other := by
  cases alike with
  | name name => exact .name name
  | field reference => exact .field reference
  | raw fragments => exact .raw fragments.blind

theorem Target.Alike.blind_option {target other : Option Target}
    (alike : Option.Rel (Target.Alike related) target other) :
    Option.Rel (Target.Related (.blind related)) target other := by
  cases alike with
  | none => exact .none
  | some targets => exact .some targets.blind

theorem PlanSettings.Alike.blind {settings options : PlanSettings}
    (alike : PlanSettings.Alike related settings options) :
    PlanSettings.Related (.blind related) settings options where
  groupBy := alike.groupBy.imp fun _ _ targets => targets.blind
  orderBy := alike.orderBy.imp fun _ _ terms => ⟨terms.1.blind, terms.2⟩
  limit := by rw [alike.others]
  offset := by rw [alike.others]
  distinct := by rw [alike.others]
  locking := by rw [alike.others]
  takesFirst := by rw [alike.others]

mutual

theorem Expr.Alike.blind : ∀ {expr other : Expr}, Expr.Alike related expr other →
    Expr.Related (.blind related) 0 expr other
  | _, _, .value literal => .value literal.corresponding
  | _, _, .list items => .list items.blind
  | _, _, .field reference => .field reference
  | _, _, .column name => .column name
  | _, _, .subquery plans => .subquery plans.blind
  | _, _, .raw fragments => .raw fragments.blind
  | _, _, .condition conditions => .condition conditions.blind
  | _, _, .group connective items => .group connective items.blind
  | _, _, .unbound => .unbound

theorem Expr.AllAlike.blind : ∀ {items others : List Expr}, Expr.AllAlike related items others →
    Expr.AllRelated (.blind related) 0 items others
  | _, _, .nil => .nil
  | _, _, .cons head tail => .cons head.blind tail.blind

theorem Condition.Alike.blind : ∀ {condition other : Condition},
    Condition.Alike related condition other →
    Condition.Related (.blind related) 0 condition other
  | _, _, .nullTest negated targets => .nullTest negated targets.blind
  | _, _, .compare comparison targets operands =>
      .compare comparison targets.blind (.within operands.blind)
  | _, _, .between targets bounds => .of_between rfl rfl targets.blind bounds.blind
  | _, _, .isIn targets choices => .of_isIn targets.blind choices.blind
  | _, _, .not operands => .not operands.blind
  | _, _, .exists operands => .exists operands.blind
  | _, _, .quantified quantifier targets operands =>
      .quantified quantifier (Target.Alike.blind_option targets) operands.blind
  | _, _, .junction connective operands => .of_junction connective operands.blind

theorem ColumnSource.Alike.blind : ∀ {source other : ColumnSource},
    ColumnSource.Alike related source other →
    ColumnSource.Related (.blind related) 0 source other
  | _, _, .field name => .field name
  | _, _, .raw fragments => .raw fragments.blind
  | _, _, .subquery plans => .subquery plans.blind

theorem Column.AllAlike.blind : ∀ {columns fields : List Column},
    Column.AllAlike related columns fields →
    Column.AllRelated (.blind related) 0 columns fields
  | _, _, .nil => .nil
  | _, _, .cons name sources rest => .cons name sources.blind rest.blind

theorem Plan.Alike.blind : ∀ {plan other : Plan}, Plan.Alike related plan other →
    Plan.Related (.blind related) (fun _ => 0) plan other
  | _, _, .mk entity tableAlias columns filter having settings joins =>
      .mk entity tableAlias columns.blind joins.blind filter.blind having.blind settings.blind

theorem Join.AllAlike.blind : ∀ {joins tables : List Join}, Join.AllAlike related joins tables →
    Join.AllRelated (.blind related) 0 0 joins tables
  | _, _, .nil => .nil
  | _, _, .cons kind name pairs plans rest => .cons_of_plan kind name pairs plans.blind rest.blind

end

theorem StatementRequest.Alike.blind {request opposite : StatementRequest}
    (alike : StatementRequest.Alike related request opposite) :
    StatementRequest.Related (.blind related) 0 request opposite := by
  have blindRows {rows others : List Record}
      (paired : List.Forall₂ (Record.Related related) rows others) :
      List.Forall₂ (Record.Related (Json.Corresponds related)) rows others :=
    paired.imp fun _ _ => Record.Related.blind
  cases alike with
  | select => exact .select
  | count => exact .count
  | insert rows => exact .insert (blindRows rows)
  | insertQuery plans => exact .insertFrom (.query plans.blind)
  | insertRaw fragments => exact .insertFrom (.raw fragments.blind)
  | update record => exact .update record.blind
  | updateBatch records => exact .updateBatch (blindRows records)
  | delete => exact .delete

namespace Plan

theorem matches_statement_of_alike {plan other : Plan} {request opposite : StatementRequest}
    (plans : Plan.Alike related plan other)
    (requests : StatementRequest.Alike related request opposite) :
    Matches (Statement.Alike related) (plan.statement request) (other.statement opposite) :=
  (matches_statement plans.blind requests.blind).imp fun _ _ statements =>
    ⟨statements.shown.2.1, statements.aliases, statements.shown.2.2⟩

theorem chunks_related {α β : Type} {paired : α → β → Prop} (size : Nat) :
    ∀ {rows : List α} {others : List β}, List.Forall₂ paired rows others →
    List.Forall₂ (List.Forall₂ paired) (chunks size rows) (chunks size others)
  | [], _, .nil => by
      rw [chunks, chunks]
      exact .nil
  | _ :: rest, _, .cons head tail => by
      rw [chunks, chunks]
      exact .cons (.cons head (List.forall₂_take size tail))
        (chunks_related size (List.forall₂_drop size tail))
termination_by rows => rows.length
decreasing_by simp only [List.length_drop, List.length_cons]; omega

theorem matches_batches {α β : Type} {paired : α → β → Prop} {plan other : Plan}
    (same : plan.batchSize = other.batchSize) {rows : List α} {others : List β}
    (rowsPaired : List.Forall₂ paired rows others) :
    Matches (List.Forall₂ (List.Forall₂ paired)) (plan.batches rows) (other.batches others) := by
  unfold batches
  rw [← same]
  cases rowsPaired with
  | nil => exact .ok .nil
  | cons head tail =>
      refine (Matches.refl _).bind ?_
      rintro size _ rfl
      cases size with
      | none => exact .ok (.cons (.cons head tail) .nil)
      | some size => exact .ok (chunks_related (size - 1) (.cons head tail))

/-- Plans that differ in bound values, asked for the same statements with rows that differ in their
values, fail with the same error or give statements that differ in corresponding values. -/
theorem statements_alike {plan other : Plan} (plans : Plan.Alike related plan other) :
    (∀ request opposite, StatementRequest.Alike related request opposite →
      Matches (Statement.Alike related) (plan.statement request) (other.statement opposite)) ∧
    ∀ request opposite, BatchRequest.Alike related request opposite →
      Matches (List.Forall₂ (Statement.Alike related)) (plan.statements request)
        (other.statements opposite) := by
  refine ⟨fun _ _ => matches_statement_of_alike plans, fun request opposite requests => ?_⟩
  have scopes := matches_scope plans.blind
  have sizes : plan.batchSize = other.batchSize := by
    cases plans with
    | mk _ _ _ _ _ settings =>
        simp only [batchSize]
        rw [settings.others]
  cases requests with
  | inserts rows =>
      exact scopes.bind fun _ _ _ => (matches_batches sizes rows).bind fun _ _ batches =>
        Matches.mapM batches fun _ _ batch => matches_statement_of_alike plans (.insert batch)
  | updateMany records =>
      exact scopes.bind fun _ _ _ => (matches_batches sizes records).bind fun _ _ batches =>
        Matches.mapM batches fun _ _ batch => matches_statement_of_alike plans (.updateBatch batch)

end Plan

/-- The accounts with a certain note. -/
def Sample.notesOf (text : String) : Plan :=
  Sample.notesWhere [.condition (.compare .equalTo (.name "note") (.value (.string text)))]

/-- A plain text and one with quotes and a question mark. -/
def Sample.Swapped (first second : Json) : Prop :=
  first = .string "x" ∧ second = .string "' OR '?'='?"

theorem Plan.statements_alike_of_notes :
    Plan.Alike Sample.Swapped (Sample.notesOf "x") (Sample.notesOf "' OR '?'='?") ∧
      Matches (Statement.Alike Sample.Swapped) ((Sample.notesOf "x").statement .select)
        ((Sample.notesOf "' OR '?'='?").statement .select) := by
  have alike : Plan.Alike Sample.Swapped (Sample.notesOf "x") (Sample.notesOf "' OR '?'='?") :=
    .mk _ _ (.cons "note" (.field "note") .nil)
      (.cons (.condition (.compare .equalTo (.name "note") (.value (.plain rfl rfl ⟨rfl, rfl⟩))))
        .nil) .nil ⟨.nil, .nil, rfl⟩ .nil
  exact ⟨alike, (Plan.statements_alike alike).1 _ _ .select⟩

end EntityQuery

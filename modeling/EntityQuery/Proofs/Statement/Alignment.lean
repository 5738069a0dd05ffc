import EntityQuery.Proofs.Plan.SelfRelated
import EntityQuery.Proofs.Statement.Requests

/-!
# Alignment of placeholders and values

A statement has one placeholder for each of its values and one for each slot that dangles in the
parts of the plan that it contains.
-/

namespace EntityQuery

/-- Every statement of a balanced plan is balanced, with the dangling slots of the parts that it
contains. -/
theorem Plan.balanced_of_statement {plan : Plan} {request : StatementRequest}
    {statement : Statement} (balanced : plan.IsBalanced) (requestBalanced : request.IsBalanced)
    (formatted : plan.statement request = .ok statement) :
    statement.toFragment.Balanced (request.dangling plan) := by
  have plans := Plan.related_self FragmentRelation.balance_isReflexive plan balanced
  have requests :=
    StatementRequest.related_self FragmentRelation.balance_isReflexive requestBalanced
  obtain ⟨_, -, related⟩ := (Plan.matches_statement plans requests).exists_of_ok formatted
  have slot : FragmentRelation.balance.slot = 1 := rfl
  have shown := related.shown.2
  simp only [slot, Nat.mul_one] at shown
  exact shown

theorem Statement.validate_eq_ok {statement : Statement} :
    statement.validate = .ok () ↔ statement.placeholderCount = statement.values.length := by
  unfold validate isAligned
  split_ifs with aligned
  · exact ⟨fun _ => beq_iff_eq.1 aligned, fun _ => rfl⟩
  · exact ⟨nofun, fun same => absurd (beq_iff_eq.2 same) aligned⟩

/-- A statement has one placeholder for each value and one for each dangling slot of the parts that
it contains, so it is valid exactly when there are none of the latter. -/
theorem Plan.placeholderCount_of_statement {plan : Plan} {request : StatementRequest}
    {statement : Statement} (balanced : plan.IsBalanced) (requestBalanced : request.IsBalanced)
    (formatted : plan.statement request = .ok statement) :
    statement.placeholderCount = statement.values.length + request.dangling plan ∧
      (statement.validate = .ok () ↔ request.dangling plan = 0) := by
  have counted : statement.placeholderCount = statement.values.length + request.dangling plan :=
    (Plan.balanced_of_statement balanced requestBalanced formatted).count_eq
  refine ⟨counted, ?_⟩
  rw [Statement.validate_eq_ok, counted]
  omega

namespace Sample

/-- Accounts with a note whose column needs quotes and holds a question mark. -/
def account : Entity :=
  ⟨0, "Account", some ⟨"account", by decide, by decide⟩, none, .identity,
    [⟨"id", ⟨"id", by decide, by decide⟩, .integer, true, false, true, none⟩,
      ⟨"note", ⟨"note?", by decide, by decide⟩, .text, false, false, false, none⟩]⟩

/-- The notes of the accounts that satisfy a filter. -/
def notesWhere (filter : List Expr) : Plan where
  entity := account
  tableAlias := some "a?"
  columns := [.ofField "note"]
  filter := filter
  having := []
  settings :=
    { groupBy := [], orderBy := [], limit := none, offset := none, distinct := false
      locking :=
        { forUpdate := false, forShare := false, tables := [], noWait := false
          skipLocked := false }
      batchSize := none, first := false, require := false, debug := false }
  joins := []

/-- A range without its upper bound beside a raw fragment with a quoted question mark. -/
def openRange : Plan :=
  notesWhere
    [.condition (.between (.name "id") (.list [.value (.integer 1)])),
      .raw ⟨"tag = ? OR tag = '?'", [.string "x"]⟩]

end Sample

set_option maxRecDepth 10000 in
theorem Plan.placeholderCount_of_openRange :
    ∃ statement, Sample.openRange.statement .select = .ok statement ∧
      Sample.openRange.IsBalanced ∧ StatementRequest.select.IsBalanced ∧
      statement.placeholderCount = statement.values.length + 1 ∧
      statement.validate ≠ .ok () := by
  have formatted : Sample.openRange.statement .select = .ok
      ⟨"SELECT \"a?\".\"note?\" FROM account AS \"a?\" WHERE (\"a?\".id BETWEEN ? AND ? AND " ++
          "tag = ? OR tag = '?')", [.integer 1, .string "x"], ["note"]⟩ := by
    rfl
  have balanced : Sample.openRange.IsBalanced :=
    ⟨⟨trivial, trivial⟩, ⟨⟨trivial, trivial, trivial⟩, ⟨by decide, by decide⟩, trivial⟩, trivial,
      ⟨by simp, by simp⟩, trivial⟩
  have selected : StatementRequest.select.IsBalanced := trivial
  obtain ⟨counted, valid⟩ := Plan.placeholderCount_of_statement balanced selected formatted
  exact ⟨_, formatted, balanced, selected, counted, fun accepted => nomatch valid.1 accepted⟩

end EntityQuery

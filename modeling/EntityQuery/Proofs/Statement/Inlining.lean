import EntityQuery.Proofs.Plan.Inlining
import EntityQuery.Proofs.Statement.Alignment

/-!
# Values stay with their placeholders

Writing a bound literal into the text takes one placeholder out of the text and one value out of the
list, both at the same index.  So the value at an index is the one that belongs to the placeholder
with that index, through all clauses and nested queries.
-/

namespace EntityQuery

open Placeholder

variable {literal : Json} {text : String}

/-- One literal is inlined in what the statement contains: a part of the plan, or the query that
rows are inserted from. -/
inductive Plan.RequestInlines (literal : Json) (text : String) :
    Plan → StatementRequest → Plan → StatementRequest → Prop
  | plan {part : Plan.Part} {plan other : Plan} (request : StatementRequest) :
      request.contains part = true → Plan.Inlines literal text part plan other →
      Plan.RequestInlines literal text plan request other request
  | source {part : Plan.Part} (plan : Plan) {nested other : Plan} :
      Plan.Inlines literal text part nested other →
      Plan.RequestInlines literal text plan (.insertFrom (.query nested)) plan
        (.insertFrom (.query other))

theorem StatementRequest.total_single {request : StatementRequest} {part : Plan.Part}
    (contained : request.contains part = true) (weights : Plan.Part → Nat) :
    request.total (fun other => weights other * 2 + if other = part then 1 else 0) =
      request.total weights * 2 + 1 := by
  unfold total
  rw [← Plan.Part.sum_single _ part]
  congr 1
  funext other
  by_cases same : other = part
  · rw [same, contained]
    rfl
  · cases request.contains other <;> simp [same]

theorem Fragment.Inlined.exists_of_one {first second : Fragment}
    (inlined : Fragment.Inlined literal text 1 first second) :
    ∃ before after : Fragment, before.Balanced 0 ∧
      first = before ++ .bound literal ++ after ∧ second = before ++ .ofText text ++ after := by
  cases inlined with
  | replaced beforeBalanced _ => exact ⟨_, _, beforeBalanced, rfl, rfl⟩

/-- The statements before and after are related with the weight of one literal. -/
theorem Plan.RequestInlines.inlined {plan other : Plan} {request opposite : StatementRequest}
    {statement : Statement} (nonempty : text ≠ "")
    (inlines : Plan.RequestInlines literal text plan request other opposite)
    (balanced : plan.IsBalanced) (requestBalanced : request.IsBalanced)
    (bound : request.dangling plan = 0) (formatted : plan.statement request = .ok statement) :
    ∃ result, other.statement opposite = .ok result ∧ statement.aliases = result.aliases ∧
      Fragment.Inlined literal text 1 statement.toFragment result.toFragment := by
  have reflexive := FragmentRelation.inlining_isReflexive literal nonempty
  unfold StatementRequest.dangling at bound
  cases inlines with
  | plan _ contained inlines =>
      have requests := StatementRequest.related_self reflexive requestBalanced
      have matched := Plan.matches_statement (inlines.related nonempty balanced) requests
      obtain ⟨result, resultFormatted, related⟩ := matched.exists_of_ok formatted
      refine ⟨result, resultFormatted, related.aliases, related.shown.of_eq ?_⟩
      rw [StatementRequest.total_single contained, FragmentRelation.inlining_slot]
      omega
  | source _ inlines =>
      have sources := InsertSource.Related.query (inlines.related nonempty requestBalanced)
      have matched := Plan.matches_statement (Plan.related_self reflexive plan balanced)
        (.insertFrom sources)
      obtain ⟨result, resultFormatted, related⟩ := matched.exists_of_ok formatted
      refine ⟨result, resultFormatted, related.aliases, related.shown.of_eq ?_⟩
      simp only [StatementRequest.sourceDangling, InsertSource.dangling, Plan.dangling_eq_sum]
        at bound
      rw [StatementRequest.total_mul, Plan.Part.sum_single, FragmentRelation.inlining_slot]
      omega

/-- Inlining a literal of a plan without dangling slots replaces one placeholder of the statement by
the text, and removes the value with the same index, which is the literal. -/
theorem Plan.statement_of_inlines {plan other : Plan} {request opposite : StatementRequest}
    {statement : Statement} (nonempty : text ≠ "")
    (inlines : Plan.RequestInlines literal text plan request other opposite)
    (balanced : plan.IsBalanced) (requestBalanced : request.IsBalanced)
    (bound : request.dangling plan = 0) (formatted : plan.statement request = .ok statement) :
    ∃ index, index < statement.placeholderCount ∧ statement.values[index]? = some literal ∧
      other.statement opposite = .ok
        ⟨replaced statement.sql index text, statement.values.eraseIdx index,
          statement.aliases⟩ := by
  obtain ⟨result, resultFormatted, aliases, inlined⟩ :=
    inlines.inlined nonempty balanced requestBalanced bound formatted
  obtain ⟨before, after, beforeBalanced, whole, inlinedWhole⟩ := inlined.exists_of_one
  have sql : statement.sql = before.text ++ "?" ++ after.text := congrArg Fragment.text whole
  have values : statement.values = before.values ++ literal :: after.values :=
    (congrArg Fragment.values whole).trans (by simp [Fragment.bound])
  have inlinedSql : result.sql = before.text ++ text ++ after.text :=
    congrArg Fragment.text inlinedWhole
  have inlinedValues : result.values = before.values ++ after.values :=
    (congrArg Fragment.values inlinedWhole).trans (by simp [Fragment.ofText])
  have index : Placeholder.count before.text = before.values.length := beforeBalanced.count_eq
  have aligned : statement.placeholderCount = statement.values.length := by
    have counted := (Plan.balanced_of_statement balanced requestBalanced formatted).count_eq
    rw [bound] at counted
    exact counted
  -- What stands before the literal is balanced, so its placeholder and its value have one index.
  refine ⟨Placeholder.count before.text, ?_, ?_, ?_⟩
  · rw [aligned, values, index]
    simp
  · rw [values, index]
    simp
  · obtain ⟨_, _, _⟩ := result
    dsimp only at aliases inlinedSql inlinedValues
    rw [resultFormatted, sql, replaced_append beforeBalanced.closed, values, index,
      List.eraseIdx_append_of_length_le (Nat.le_refl _), Nat.sub_self, List.eraseIdx_cons_zero,
      inlinedSql, inlinedValues, aliases]

/-- The notes of the accounts from `1` to `2` whose note is among two texts. -/
def Sample.shortNotes : Plan :=
  Sample.notesWhere
    [.condition (.between (.name "id") (.list [.value (.integer 1), .value (.integer 2)])),
      .condition (.isIn (.name "note") (.list [.value (.string "x"), .value (.string "y")]))]

set_option maxRecDepth 10000 in
theorem Plan.statement_of_shortNotes :
    ∃ plan statement,
      Plan.RequestInlines (.string "x") "$tag" Sample.shortNotes .select plan .select ∧
      Sample.shortNotes.IsBalanced ∧ StatementRequest.select.dangling Sample.shortNotes = 0 ∧
      Sample.shortNotes.statement .select = .ok statement ∧
      ∃ index, index < statement.placeholderCount ∧
        statement.values[index]? = some (.string "x") ∧
        plan.statement .select = .ok
          ⟨replaced statement.sql index "$tag", statement.values.eraseIdx index,
            statement.aliases⟩ := by
  have formatted : Sample.shortNotes.statement .select = .ok
      ⟨"SELECT \"a?\".\"note?\" FROM account AS \"a?\" WHERE (\"a?\".id BETWEEN ? AND ? AND " ++
          "\"a?\".\"note?\" IN (?, ?))",
        [.integer 1, .integer 2, .string "x", .string "y"], ["note"]⟩ := by
    rfl
  have inlines : Plan.RequestInlines (.string "x") "$tag" Sample.shortNotes .select _ .select :=
    .plan .select rfl (.filter (Sample.notesWhere [])
      [.condition (.between (.name "id") (.list [.value (.integer 1), .value (.integer 2)]))] []
      (.condition (.isInList (.name "note") [] [.value (.string "y")] .here)))
  have balanced : Sample.shortNotes.IsBalanced :=
    ⟨⟨trivial, trivial⟩,
      ⟨⟨trivial, trivial, trivial, trivial⟩, ⟨trivial, trivial, trivial, trivial⟩, trivial⟩,
      trivial, ⟨by simp, by simp⟩, trivial⟩
  exact ⟨_, _, inlines, balanced, rfl, formatted,
    Plan.statement_of_inlines (by decide) inlines balanced trivial rfl formatted⟩

end EntityQuery

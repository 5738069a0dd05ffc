import EntityQuery.Proofs.Plan.Request
import EntityQuery.Proofs.Statement.Transport

/-!
# Statements of related requests

Whatever statement is asked for, related plans with related data fail alike or give related
statements.  The weight of a statement is the weight of the parts of the plan that it contains, of
the source of its rows, and of the slots that stand for fields its rows lack.
-/

namespace EntityQuery

open Placeholder Outcome

variable {relation : FragmentRelation}

namespace Record.Related

variable {datum : Json → Json → Prop} {record other : Record}

theorem find? (related : Record.Related datum record other) (key : String) :
    Option.Rel datum (Record.find? record key) (Record.find? other key) := by
  unfold Record.find?
  induction related with
  | nil => exact .none
  | @cons entry twin rest tail pair _ ih =>
      obtain ⟨name, value⟩ := entry
      obtain ⟨twinName, twinValue⟩ := twin
      obtain ⟨rfl, values⟩ := pair
      rw [List.lookup_cons, List.lookup_cons]
      cases key == name with
      | true => exact .some values
      | false => exact ih

theorem has_eq (related : Record.Related datum record other) (key : String) :
    Record.has other key = Record.has record key := by
  have values := related.find? key
  unfold Record.has
  generalize Record.find? record key = held at values
  generalize Record.find? other key = kept at values
  cases values <;> rfl

end Record.Related

namespace Plan

variable {record other : Record}

theorem knownFields_eq {datum : Json → Json → Prop} (entity : Entity)
    (related : Record.Related datum record other) :
    knownFields entity other = knownFields entity record := by
  have keys : Record.keys other = Record.keys record := by
    unfold Record.keys
    induction related with
    | nil => rfl
    | cons pair _ ih => rw [List.map_cons, List.map_cons, ih, pair.1]
  rw [knownFields, knownFields, keys]

/-- A field of a row is bound, or one slot if the row lacks it. -/
theorem related_slot (related : Record.Related relation.datum record other) (field : Field) :
    relation.related ((!Record.has record field.name).toNat * relation.slot) (slot record field)
      (slot other field) := by
  have values := related.find? field.name
  unfold slot Record.has
  generalize Record.find? record field.name = held at values
  generalize Record.find? other field.name = kept at values
  cases values with
  | none => simpa using relation.unbound
  | some pair => simpa using relation.bound pair

/-- A tuple whose items each show one field of a row weighs as much as a slot for each field that
is lacking. -/
theorem related_tuple {item twin : Field → Fragment} (fields : List Field)
    (shown : ∀ field, relation.related ((!Record.has record field.name).toNat * relation.slot)
      (item field) (twin field)) :
    relation.related (Record.lacking record fields * relation.slot)
      (Fragment.intercalate ", " (fields.map item)).parenthesized
      (Fragment.intercalate ", " (fields.map twin)).parenthesized := by
  have items : relation.All (Record.lacking record fields * relation.slot) (fields.map item)
      (fields.map twin) := by
    induction fields with
    | nil => simpa [Record.lacking] using FragmentRelation.All.nil
    | cons field rest ih =>
        have both := FragmentRelation.All.cons (shown field) ih
        rw [← Nat.add_mul] at both
        unfold Record.lacking at *
        rw [List.countP_cons, Nat.add_comm]
        cases held : Record.has record field.name <;> simpa [held] using both
  exact FragmentRelation.parenthesized (items.intercalate _ (by decide))

theorem related_insertTuple (related : Record.Related relation.datum record other)
    (fields : List Field) :
    relation.related (Record.lacking record fields * relation.slot) (insertTuple fields record)
      (insertTuple fields other) :=
  related_tuple fields (related_slot related)

theorem related_updateTuple (related : Record.Related relation.datum record other)
    (fields : List Field) :
    relation.related (Record.lacking record fields * relation.slot) (updateTuple fields record)
      (updateTuple fields other) := by
  apply related_tuple fields
  intro field
  unfold castSlot
  split
  case h_1 sqlType known =>
      have castInert : IsInert ("::" ++ sqlType) :=
        isInert_append.2 ⟨by decide, FieldType.isInert_of_sqlType known⟩
      exact FragmentRelation.trailing (related_slot related field) (relation.keyword _ castInert)
  case h_2 => exact related_slot related field

theorem all_tuples {tuple : Record → Fragment} {fields : List Field} {rows others : List Record}
    (related : List.Forall₂ (Record.Related relation.datum) rows others)
    (shown : ∀ record other, Record.Related relation.datum record other →
      relation.related (Record.lacking record fields * relation.slot) (tuple record)
        (tuple other)) :
    relation.All (Record.lackingAll fields rows * relation.slot) (rows.map tuple)
      (others.map tuple) := by
  induction related with
  | nil => simpa [Record.lackingAll] using FragmentRelation.All.nil
  | cons row _ ih =>
      rw [Record.lackingAll, Nat.add_mul]
      exact .cons (shown _ _ row) ih

/-- A record assigns the same fields, and related values to them. -/
theorem assignments_related {datum : Json → Json → Prop} (entity : Entity)
    (related : Record.Related datum record other) :
    List.Forall₂ (fun entry twin => entry.1 = twin.1 ∧ datum entry.2 twin.2)
      (assignments entity record) (assignments entity other) := by
  unfold assignments
  induction related with
  | nil => exact .nil
  | @cons entry twin rest tail pair _ ih =>
      obtain ⟨name, value⟩ := entry
      obtain ⟨twinName, twinValue⟩ := twin
      obtain ⟨rfl, values⟩ := pair
      rw [List.filterMap_cons, List.filterMap_cons]
      dsimp only
      cases entity.field? name with
      | none => exact ih
      | some field =>
          cases primary : field.primary with
          | true => simpa [primary] using ih
          | false => simpa [primary] using ⟨values, ih⟩

theorem related_assignment {entry twin : Field × Json} (same : entry.1 = twin.1)
    (values : relation.datum entry.2 twin.2) :
    relation.related 0 (assignment entry) (assignment twin) := by
  have nameQuiet := entry.1.column.isQuiet_toSql.append
    (isQuiet_of_isInert " = " (by decide))
  unfold assignment
  rw [← same]
  exact FragmentRelation.leading (relation.quiet nameQuiet) (relation.bound values)

theorem all_assignments (entity : Entity) (related : Record.Related relation.datum record other) :
    relation.All 0 ((assignments entity record).map assignment)
      ((assignments entity other).map assignment) := by
  refine .of_pairs (List.rel_map ?_ (assignments_related entity related))
  intro entry twin pair
  exact related_assignment pair.1 pair.2

theorem related_equalsAll {pairs others : List (String × Expr)}
    (paired : List.Forall₂
      (fun pair twin => pair.1 = twin.1 ∧ Expr.OperandRelated relation 0 pair.2 twin.2)
      pairs others) :
    Expr.Related relation 0 (Grouping.equalsAll pairs).toExpr
      (Grouping.equalsAll others).toExpr := by
  refine .group .and ?_
  unfold Grouping.equalsAll
  induction paired with
  | nil => exact .nil
  | @cons pair twin rest tail same _ ih =>
      obtain ⟨name, operand⟩ := pair
      obtain ⟨twinName, opposite⟩ := twin
      obtain ⟨rfl, operands⟩ := same
      exact .cons (.condition (.compare .equalTo (.name name) operands)) ih

/-- The primary key of a record is bound whenever it is written at all. -/
theorem matches_primaryFilter {plan twin : Plan} (same : plan.entity = twin.entity)
    (related : Record.Related relation.datum record other) (scope : Scope) :
    Matches (relation.related 0) (plan.primaryFilter scope record)
      (twin.primaryFilter scope other) := by
  unfold primaryFilter
  simp only [← same, related.has_eq]
  split_ifs with unidentified
  · exact .ok relation.empty
  · have identified : ∀ field ∈ plan.entity.primaryFields, Record.has record field.name = true :=
      (by simpa using unidentified : _ ∧ _).2
    refine Matches.bind (Expr.matches_format (relation.agree_self scope)
      (related_equalsAll ?_)) fun _ _ keys => .ok
        (FragmentRelation.leading (relation.keyword "WHERE " (by decide)) keys)
    rw [List.forall₂_map_left_iff, List.forall₂_map_right_iff, List.forall₂_same]
    intro field member
    refine ⟨rfl, ?_⟩
    have present := identified field member
    have values := related.find? field.name
    unfold Record.has at present
    generalize Record.find? record field.name = held at values present
    generalize Record.find? other field.name = kept at values
    cases values with
    | none => contradiction
    | some pair => exact .value pair

section Requests

variable {weights : Part → Nat} {plan twin : Plan}

theorem matches_scope (plans : Plan.Related relation weights plan twin) :
    Matches Eq plan.scope twin.scope := by
  cases plans
  exact Matches.same fun _ _ => rfl

theorem matches_whereClause (plans : Plan.Related relation weights plan twin) (scope : Scope) :
    Matches (relation.related (weights .filter)) (plan.whereClause scope)
      (twin.whereClause scope) := by
  cases plans with
  | mk _ _ _ _ filter =>
      exact (Expr.matches_formatAll (relation.agree_self scope) filter).bind fun _ _ shown =>
        .ok (shown.predicate _ (by decide))

theorem matches_outputColumns (plans : Plan.Related relation weights plan twin) (scope : Scope) :
    Matches (relation.Columns (weights .columns)) (plan.outputColumns scope)
      (twin.outputColumns scope) := by
  cases plans with
  | mk _ _ columns => exact Column.matches_formatAll scope none columns

theorem matches_joinedTables (plans : Plan.Related relation weights plan twin) (scope : Scope) :
    Matches (relation.Joins (weights .joinClauses) (weights .joinColumns))
      (plan.joinedTables scope) (twin.joinedTables scope) := by
  cases plans with
  | mk _ _ _ joins => exact Join.matches_formatAll scope joins

theorem related_returningClause {weight : Nat} {columns fields : List OutputColumn}
    (shown : relation.Columns weight columns fields) :
    relation.related weight (returningClause columns) (returningClause fields) :=
  FragmentRelation.leading (relation.keyword _ (by decide)) shown.list

theorem matches_fromClause (scope : Scope) :
    Matches (fun text other => text = other ∧ IsQuiet text) (fromClause scope)
      (fromClause scope) :=
  Matches.same fun _ formatted => ⟨rfl, isQuiet_of_fromClause formatted⟩

theorem matches_count (plans : Plan.Related relation weights plan twin) :
    Matches (relation.Statements (weights .joinClauses + weights .filter)) plan.count
      twin.count := by
  refine (matches_scope plans).bind ?_
  rintro scope _ rfl
  refine (matches_joinedTables plans scope).bind fun _ _ joined => ?_
  refine (matches_fromClause scope).bind ?_
  rintro source _ ⟨rfl, sourceQuiet⟩
  refine (matches_whereClause plans scope).bind fun _ _ filter => .ok ⟨rfl, ?_⟩
  have whole := FragmentRelation.All.clauses <|
    .cons (relation.keyword "SELECT COUNT(*) AS count" (by decide)) <|
    .cons (relation.quiet sourceQuiet) <|
    .cons joined.clauses.clauses <|
    .singleton filter
  exact FragmentRelation.of_eq whole (by omega)

theorem matches_delete (plans : Plan.Related relation weights plan twin) :
    Matches (relation.Statements (weights .columns + weights .filter)) plan.delete
      twin.delete := by
  refine (matches_scope plans).bind ?_
  rintro scope _ rfl
  refine (matches_fromClause scope).bind ?_
  rintro source _ ⟨rfl, sourceQuiet⟩
  refine (matches_outputColumns plans scope).bind fun _ _ columns => ?_
  refine (matches_whereClause plans scope).bind fun _ _ filter => .ok ⟨columns.aliases, ?_⟩
  have headQuiet := (isQuiet_of_isInert "DELETE " (by decide)).append sourceQuiet
  have whole := FragmentRelation.All.clauses <|
    .cons (relation.quiet headQuiet) <|
    .cons filter <|
    .singleton (related_returningClause columns)
  exact FragmentRelation.of_eq whole (by omega)

theorem matches_insert {rows others : List Record}
    (plans : Plan.Related relation weights plan twin)
    (related : List.Forall₂ (Record.Related relation.datum) rows others) :
    Matches (relation.Statements
        (weights .columns + plan.entity.lackingFields rows * relation.slot))
      (plan.insert rows) (twin.insert others) := by
  refine (matches_scope plans).bind ?_
  rintro scope _ rfl
  have entity : plan.entity = twin.entity := by cases plans; rfl
  rw [← entity]
  cases related with
  | nil => exact .error _
  | @cons first other rest tail head rests =>
      dsimp only
      rw [knownFields_eq plan.entity head]
      split_ifs
      · exact .error _
      refine (FragmentRelation.source scope).bind ?_
      rintro source _ ⟨rfl, sourceQuiet⟩
      refine (matches_outputColumns plans scope).bind fun _ _ columns => .ok ⟨columns.aliases, ?_⟩
      have headQuiet := isQuiet_insertHead sourceQuiet (knownFields plan.entity first)
      have tuples := all_tuples (.cons head rests) fun _ _ row =>
        related_insertTuple row (knownFields plan.entity first)
      have whole := FragmentRelation.All.clauses <|
        .cons (relation.quiet headQuiet) <|
        .cons (FragmentRelation.leading (relation.keyword "VALUES " (by decide))
          (tuples.joined ", " (by decide))) <|
        .singleton (related_returningClause columns)
      exact FragmentRelation.of_eq whole (by simp only [Entity.lackingFields]; omega)

theorem matches_sourceFragment {weight : Nat} {source other : InsertSource}
    (sources : InsertSource.Related relation weight source other) :
    Matches (relation.related weight) (sourceFragment source) (sourceFragment other) := by
  cases sources with
  | query plans => exact (Plan.matches_select plans).bind fun _ _ rows => .ok rows.shown
  | raw fragments => exact .ok fragments

theorem matches_insertFrom {weight : Nat} {source other : InsertSource}
    (plans : Plan.Related relation weights plan twin)
    (sources : InsertSource.Related relation weight source other) :
    Matches (relation.Statements (weights .columns + weight)) (plan.insertFrom source)
      (twin.insertFrom other) := by
  refine (matches_scope plans).bind ?_
  rintro scope _ rfl
  refine (FragmentRelation.source scope).bind ?_
  rintro target _ ⟨rfl, targetQuiet⟩
  refine (matches_sourceFragment sources).bind fun _ _ body => ?_
  refine (matches_outputColumns plans scope).bind fun _ _ columns => .ok ⟨columns.aliases, ?_⟩
  have headQuiet := (isQuiet_of_isInert "INSERT INTO " (by decide)).append targetQuiet
  have whole := FragmentRelation.All.clauses <|
    .cons (relation.quiet headQuiet) <|
    .cons body <|
    .singleton (related_returningClause columns)
  exact FragmentRelation.of_eq whole (by omega)

theorem matches_updateFilter (plans : Plan.Related relation weights plan twin)
    (related : Record.Related relation.datum record other) (scope : Scope) :
    Matches (relation.related (weights .filter)) (plan.updateFilter scope record)
      (twin.updateFilter scope other) := by
  have conditions := matches_whereClause plans scope
  cases plans with
  | mk entity tableAlias _ _ filter =>
      generalize weights .filter = weight at filter conditions ⊢
      cases filter with
      | nil => exact matches_primaryFilter rfl related scope
      | cons => exact conditions

theorem matches_update (plans : Plan.Related relation weights plan twin)
    (related : Record.Related relation.datum record other) :
    Matches (relation.Statements (weights .columns + weights .filter)) (plan.update record)
      (twin.update other) := by
  have entity : plan.entity = twin.entity := by cases plans; rfl
  have assigned := all_assignments plan.entity related
  have unassigned : (assignments plan.entity other).isEmpty =
      (assignments plan.entity record).isEmpty := by
    have sameLength := (assignments_related plan.entity related).length_eq
    rw [Bool.eq_iff_iff, List.isEmpty_iff_length_eq_zero, List.isEmpty_iff_length_eq_zero,
      sameLength]
  simp only [update_eq, ← entity, unassigned]
  refine (matches_scope plans).bind ?_
  rintro scope _ rfl
  split_ifs
  · exact .error _
  refine (FragmentRelation.source scope).bind ?_
  rintro source _ ⟨rfl, sourceQuiet⟩
  refine (matches_updateFilter plans related scope).bind fun _ _ filter => ?_
  refine (matches_outputColumns plans scope).bind fun _ _ columns => .ok ⟨columns.aliases, ?_⟩
  have headQuiet := ((isQuiet_of_isInert "UPDATE " (by decide)).append sourceQuiet).append
    (isQuiet_of_isInert " SET " (by decide))
  have whole := FragmentRelation.All.clauses <|
    .cons (FragmentRelation.leading (relation.quiet headQuiet)
      (assigned.joined ", " (by decide))) <|
    .cons filter <|
    .singleton (related_returningClause columns)
  exact FragmentRelation.of_eq whole (by omega)

theorem matches_updateBatch {records others : List Record}
    (plans : Plan.Related relation weights plan twin)
    (related : List.Forall₂ (Record.Related relation.datum) records others) :
    Matches (relation.Statements (weights .columns + weights .filter +
        plan.entity.lackingFields records * relation.slot))
      (plan.updateBatch records) (twin.updateBatch others) := by
  refine (matches_scope plans).bind ?_
  rintro scope _ rfl
  have entity : plan.entity = twin.entity := by cases plans; rfl
  have filters : Matches (relation.All (weights .filter)) (Expr.formatAll scope plan.filter)
      (Expr.formatAll scope twin.filter) := by
    cases plans with
    | mk _ _ _ _ filter => exact Expr.matches_formatAll (relation.agree_self scope) filter
  rw [← entity]
  cases related with
  | nil => exact .error _
  | @cons first other rest tail head rests =>
      dsimp only
      rw [knownFields_eq plan.entity head]
      split
      · exact .error _
      refine (Matches.refl _).bind ?_
      rintro qualifier _ rfl
      refine (FragmentRelation.source scope).bind ?_
      rintro source _ ⟨rfl, sourceQuiet⟩
      refine filters.bind fun _ _ conditions => ?_
      refine (matches_outputColumns plans scope).bind fun _ _ columns => .ok ⟨columns.aliases, ?_⟩
      have tuples := all_tuples (.cons head rests) fun _ _ row =>
        related_updateTuple row (knownFields plan.entity first)
      have values := FragmentRelation.trailing
        (FragmentRelation.leading (relation.keyword "FROM (VALUES " (by decide))
          (tuples.joined ", " (by decide)))
        (relation.quiet (isQuiet_valuesColumns (knownFields plan.entity first)))
      have restriction := FragmentRelation.leading
        (relation.quiet (isQuiet_batchKeys qualifier plan.entity.primaryFields))
        (FragmentRelation.after " AND " (conditions.combine .and) (by decide))
      have headQuiet := isQuiet_batchHead sourceQuiet
        ((knownFields plan.entity first).filter fun field => !field.primary)
      have whole := FragmentRelation.All.clauses <|
        .cons (relation.quiet headQuiet) <|
        .cons values <|
        .cons restriction <|
        .singleton (related_returningClause columns)
      exact FragmentRelation.of_eq whole (by simp only [Entity.lackingFields]; omega)

end Requests

/-- Related plans fail alike on related requests, or give related statements. -/
theorem matches_statement {weights : Part → Nat} {weight : Nat} {plan twin : Plan}
    {request opposite : StatementRequest} (plans : Plan.Related relation weights plan twin)
    (requests : StatementRequest.Related relation weight request opposite) :
    Matches (relation.Statements
        (request.total weights + weight + request.lackingFields plan.entity * relation.slot))
      (plan.statement request) (twin.statement opposite) := by
  unfold StatementRequest.total StatementRequest.lackingFields Part.sum statement
  cases requests with
  | select => simpa [StatementRequest.contains, Part.sum] using matches_select plans
  | count => simpa [StatementRequest.contains] using matches_count plans
  | insert rows => simpa [StatementRequest.contains] using matches_insert plans rows
  | insertFrom sources => simpa [StatementRequest.contains] using matches_insertFrom plans sources
  | update record => simpa [StatementRequest.contains] using matches_update plans record
  | updateBatch records => simpa [StatementRequest.contains] using matches_updateBatch plans records
  | delete => simpa [StatementRequest.contains] using matches_delete plans

end Plan

end EntityQuery

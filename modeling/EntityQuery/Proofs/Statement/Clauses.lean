import EntityQuery.Proofs.Plan.Related
import EntityQuery.Proofs.Statement.Quiet
import Mathlib.Tactic.SplitIfs

/-!
# Related clauses

Every clause is related to its counterpart when the fragments that they are made of are.  What a
clause takes from names alone is the same on both sides.
-/

namespace EntityQuery

open Placeholder Outcome

namespace PlanSettings.Related

variable {relation : FragmentRelation} {first second : PlanSettings}

theorem limit_eq (related : Related relation first second) :
    Clause.limit first = Clause.limit second := by
  unfold Clause.limit
  rw [related.limit, related.takesFirst]

theorem offset_eq (related : Related relation first second) :
    Clause.offset first = Clause.offset second := by
  unfold Clause.offset
  rw [related.offset]

end PlanSettings.Related

namespace FragmentRelation

variable {relation : FragmentRelation} {weight own others : Nat} {first second : Fragment}
variable {parts opposite : List Fragment} {scope current : Scope}

/-- Two scopes in which every column is written alike, up to the relation. -/
structure Agree (relation : FragmentRelation) (first second : Scope) : Prop where
  column (name : String) : Matches (fun one two => relation.related 0 (.ofText one) (.ofText two))
    (first.column name) (second.column name)
  fieldColumn (reference : FieldRef) :
    Matches (fun one two => relation.related 0 (.ofText one) (.ofText two))
      (first.fieldColumn reference) (second.fieldColumn reference)

theorem agree_self (relation : FragmentRelation) (scope : Scope) : relation.Agree scope scope where
  column _ := Matches.same fun _ resolved => relation.quiet (Scope.isQuiet_of_column resolved)
  fieldColumn _ := Matches.same fun _ resolved =>
    relation.quiet (Scope.isQuiet_of_fieldColumn resolved)

theorem infixKeyword (relation : FragmentRelation) (operator : Operator) :
    relation.related 0 (EntityQuery.infixKeyword operator) (EntityQuery.infixKeyword operator) :=
  relation.keyword _ (isInert_append.2
    ⟨isInert_append.2 ⟨by decide, operator.keyword_inert⟩, by decide⟩)

theorem leadingKeyword (relation : FragmentRelation) (operator : Operator) :
    relation.related 0 (EntityQuery.leadingKeyword operator)
      (EntityQuery.leadingKeyword operator) :=
  relation.keyword _ (isInert_append.2 ⟨operator.keyword_inert, by decide⟩)

/-- An operand after its target and the operator between them. -/
theorem afterTarget {target other keyword : Fragment} (targets : relation.related 0 target other)
    (keywords : relation.related 0 keyword keyword)
    (operands : relation.related weight first second) :
    relation.related weight (target ++ keyword ++ first) (other ++ keyword ++ second) :=
  leading (trailing targets keywords) operands

theorem all_bound {items twins : List Json} (data : List.Forall₂ relation.datum items twins) :
    relation.All 0 (items.map .bound) (twins.map .bound) :=
  All.of_pairs (List.rel_map (R := relation.datum) (fun _ _ pair => relation.bound pair) data)

/-- The null that stands for no items is bound. -/
theorem operandSet (items : relation.All weight parts opposite) :
    relation.related weight (EntityQuery.operandSet parts) (EntityQuery.operandSet opposite) := by
  unfold EntityQuery.operandSet
  apply parenthesized
  cases items with
  | nil => exact relation.bound relation.null
  | cons part rests => exact (All.cons part rests).joined _ (by decide)

/-- Both bounds of a range. -/
theorem range {low high bottom top : Fragment} (lows : relation.related own low bottom)
    (highs : relation.related others high top) :
    relation.related (own + others) (low ++ .ofText " AND " ++ high)
      (bottom ++ .ofText " AND " ++ top) :=
  relation.append (trailing lows (relation.keyword _ (by decide))) highs

/-- Every bound that an array lacks is one slot; its further items are left out. -/
theorem range_bound {items twins : List Json} (data : List.Forall₂ relation.datum items twins) :
    relation.related ((2 - items.length) * relation.slot) (rangeBounds (items.map .bound))
      (rangeBounds (twins.map .bound)) := by
  cases data with
  | nil => exact of_eq (range relation.unbound relation.unbound) (Nat.two_mul relation.slot).symm
  | cons low rest =>
      cases rest with
      | nil => exact of_eq (range (relation.bound low) relation.unbound) (by simp)
      | cons high rest => exact of_eq (range (relation.bound low) (relation.bound high)) (by simp)

theorem rowOperand {items twins : List Expr} (related : Expr.AllRelated relation weight items twins)
    (shown : relation.All weight parts opposite) :
    relation.related weight (EntityQuery.rowOperand items parts)
      (EntityQuery.rowOperand twins opposite) := by
  have values := related.values?
  unfold EntityQuery.rowOperand
  generalize Expr.values? items = held at values
  generalize Expr.values? twins = kept at values
  cases values with
  | none => exact parenthesized (shown.joined _ (by decide))
  | some pair =>
      obtain ⟨rfl, data⟩ := pair
      exact relation.bound (relation.array data)

theorem enclose {operand twin : Expr} (alike : twin.isEnclosed = operand.isEnclosed)
    (inner : relation.related weight first second) :
    relation.related weight (operand.enclose first) (twin.enclose second) := by
  unfold Expr.enclose
  rw [alike]
  split
  · exact inner
  · exact parenthesized inner

theorem target {one two : Target} (related : Target.Related relation one two)
    (agree : relation.Agree scope current) :
    Matches (relation.related 0) (one.format scope) (two.format current) := by
  cases related with
  | name name => exact (agree.column name).bind fun _ _ shown => .ok shown
  | field reference => exact (agree.fieldColumn reference).bind fun _ _ shown => .ok shown
  | raw raws => exact .ok raws

theorem quantifiedTarget {one two : Option Target}
    (related : Option.Rel (Target.Related relation) one two)
    (agree : relation.Agree scope current) :
    Matches (relation.related 0) (EntityQuery.quantifiedTarget scope one)
      (EntityQuery.quantifiedTarget current two) := by
  cases related with
  | none => exact .ok relation.empty
  | some targets =>
      refine (target targets agree).bind fun fragment twin shown => .ok ?_
      rw [← relation.isEmpty_eq shown]
      split
      · exact shown
      · exact trailing shown (relation.keyword _ (by decide))

theorem groupBy {one two : PlanSettings} (related : PlanSettings.Related relation one two)
    (scope : Scope) :
    Matches (relation.related 0) (Clause.groupBy scope one) (Clause.groupBy scope two) := by
  have targets := Matches.mapM related.groupBy fun _ _ pair =>
    target pair (relation.agree_self scope)
  exact targets.bind fun _ _ shown => .ok ((All.of_pairs shown).listing _ (by decide))

theorem orderTerm {one two : OrderTerm} (related : Target.Related relation one.target two.target)
    (same : one.direction = two.direction) (scope : Scope) :
    Matches (relation.related 0) (Clause.orderTerm scope one) (Clause.orderTerm scope two) := by
  have directionInert : IsInert (" " ++ two.direction.keyword) := by
    cases two.direction <;> decide
  unfold Clause.orderTerm
  rw [same]
  exact (target related (relation.agree_self scope)).bind fun _ _ shown =>
    .ok (trailing shown (relation.keyword _ directionInert))

theorem orderBy {one two : PlanSettings} (related : PlanSettings.Related relation one two)
    (scope : Scope) :
    Matches (relation.related 0) (Clause.orderBy scope one) (Clause.orderBy scope two) := by
  have terms := Matches.mapM related.orderBy fun _ _ pair => orderTerm pair.1 pair.2 scope
  exact terms.bind fun _ _ shown => .ok ((All.of_pairs shown).listing _ (by decide))

theorem locking {one two : PlanSettings} (related : PlanSettings.Related relation one two) :
    Matches (fun text twin => text = twin ∧ IsQuiet text) (Clause.locking one.locking)
      (Clause.locking two.locking) := by
  rw [← related.locking]
  exact Matches.same fun _ formatted => ⟨rfl, Clause.isQuiet_of_locking formatted⟩

theorem source (scope : Scope) :
    Matches (fun text twin => text = twin ∧ IsQuiet text) scope.source scope.source :=
  Matches.same fun _ resolved => ⟨rfl, Scope.isQuiet_of_source resolved⟩

/-- Columns with the same aliases and related fragments. -/
structure Columns (relation : FragmentRelation) (weight : Nat) (first second : List OutputColumn) :
    Prop where
  shown : relation.All weight (first.map OutputColumn.fragment) (second.map OutputColumn.fragment)
  aliases : OutputColumn.aliases first = OutputColumn.aliases second

namespace Columns

theorem nil : relation.Columns 0 [] [] := ⟨.nil, rfl⟩

theorem append {one two three four : List OutputColumn} (front : relation.Columns own one two)
    (back : relation.Columns others three four) :
    relation.Columns (own + others) (one ++ three) (two ++ four) := by
  refine ⟨?_, ?_⟩
  · rw [List.map_append, List.map_append]
    exact front.shown.append back.shown
  · have frontAliases := front.aliases
    have backAliases := back.aliases
    simp only [OutputColumn.aliases, List.map_append] at *
    rw [frontAliases, backAliases]

theorem list {one two : List OutputColumn} (columns : relation.Columns weight one two) :
    relation.related weight (OutputColumn.list one) (OutputColumn.list two) :=
  columns.shown.joined _ (by decide)

end Columns

/-- The alias of a column depends on its name and its kind alone. -/
theorem ofSource {one two : ColumnSource} (related : ColumnSource.Related relation own one two)
    (shown : relation.related weight first second) (scope : Scope) (outputAlias : String) :
    Matches (fun column other => relation.Columns weight [column] [other])
      (OutputColumn.ofSource scope outputAlias one first)
      (OutputColumn.ofSource scope outputAlias two second) := by
  -- A raw source stands for every column that cannot go without its alias.
  have labelled : Matches (fun column other => relation.Columns weight [column] [other])
      (OutputColumn.ofSource scope outputAlias (.raw .empty) first)
      (OutputColumn.ofSource scope outputAlias (.raw .empty) second) := by
    simp only [OutputColumn.ofSource, Bool.false_eq_true, if_false]
    cases Ident.ofName outputAlias with
    | ok ident =>
        have label := relation.quiet
          ((isQuiet_of_isInert " AS " (by decide)).append ident.isQuiet_toSql)
        exact .ok ⟨.singleton (trailing shown label), rfl⟩
    | error fault => exact .error _
  cases related with
  | field name =>
      simp only [OutputColumn.ofSource]
      split
      · exact .ok ⟨.singleton shown, rfl⟩
      · exact labelled
  | raw => exact labelled
  | subquery => exact labelled

/-- Joins with related clauses and columns. -/
structure Joins (relation : FragmentRelation) (clauseWeight columnWeight : Nat)
    (first second : List JoinedTable) : Prop where
  clauses : relation.All clauseWeight (first.map JoinedTable.clause)
    (second.map JoinedTable.clause)
  columns : relation.Columns columnWeight (JoinedTable.allColumns first)
    (JoinedTable.allColumns second)

theorem keyEquation (relation : FragmentRelation) (owner joined : Scope) (pair : String × String) :
    Matches (relation.related 0) (JoinedTable.keyEquation owner joined pair)
      (JoinedTable.keyEquation owner joined pair) := by
  apply Matches.same
  intro fragment formatted
  simp only [JoinedTable.keyEquation, bind_eq_ok, pure_eq_ok] at formatted
  obtain ⟨foreign, foreignResolved, own, ownResolved, rfl⟩ := formatted
  have foreignQuiet := Scope.isQuiet_of_column foreignResolved
  have ownQuiet := Scope.isQuiet_of_column ownResolved
  exact relation.quiet ((foreignQuiet.append (isQuiet_of_isInert _ (by decide))).append ownQuiet)

/-- The names and key equations of a join are the same on both sides. -/
theorem joinHead (relation : FragmentRelation) (owner : Scope) (joined : Entity)
    (tableAlias name : Option String) (pairs : List (String × String)) :
    Matches (fun head other =>
        head = other ∧ IsQuiet head.source ∧ relation.All 0 head.keys head.keys)
      (JoinHead.resolve owner joined tableAlias name pairs)
      (JoinHead.resolve owner joined tableAlias name pairs) := by
  apply Matches.same
  intro head resolved
  simp only [JoinHead.resolve, bind_eq_ok, pure_eq_ok] at resolved
  obtain ⟨table, -, joinAlias, -, pairs, -, source, sourceResolved, keys, keysFormatted, rfl⟩ :=
    resolved
  have keyed : Matches (List.Forall₂ (relation.related 0))
      (pairs.mapM (JoinedTable.keyEquation owner ⟨joined, some joinAlias⟩))
      (pairs.mapM (JoinedTable.keyEquation owner ⟨joined, some joinAlias⟩)) := by
    refine Matches.mapM (List.forall₂_same.2 fun pair _ => Eq.refl pair) ?_
    rintro pair - rfl
    exact keyEquation relation owner ⟨joined, some joinAlias⟩ pair
  obtain ⟨others, othersFormatted, shown⟩ := keyed.exists_of_ok keysFormatted
  obtain rfl := Except.ok.inj (keysFormatted.symm.trans othersFormatted)
  exact ⟨rfl, Entity.isQuiet_of_qualifiedTable sourceResolved, .of_pairs shown⟩

theorem joinClause {filter restriction : List Fragment} (kind : JoinKind) (head : JoinHead)
    (sourceQuiet : IsQuiet head.source) (keys : relation.All 0 head.keys head.keys)
    (filters : relation.All weight filter restriction) :
    relation.related weight
      (JoinedTable.joinClause kind head.table head.source head.joinAlias head.keys filter)
      (JoinedTable.joinClause kind head.table head.source head.joinAlias head.keys
        restriction) := by
  have kindQuiet : IsQuiet kind.keyword := by
    cases kind <;> exact isQuiet_of_isInert _ (by decide)
  have namedQuiet : IsQuiet (if head.joinAlias = head.table then head.source
      else head.source ++ " AS " ++ head.joinAlias.toSql) := by
    split
    · exact sourceQuiet
    · exact (sourceQuiet.append (isQuiet_of_isInert _ (by decide))).append
        head.joinAlias.isQuiet_toSql
  have headQuiet := (kindQuiet.append namedQuiet).append
    (isQuiet_of_isInert " ON " (by decide))
  have conditions := keys.append (.singleton (filters.combine .and))
  rw [Nat.zero_add] at conditions
  exact leading (relation.quiet headQuiet) (conditions.joined _ (by decide))

/-- Statements with the same aliases and related text and values. -/
structure Statements (relation : FragmentRelation) (weight : Nat) (first second : Statement) :
    Prop where
  aliases : first.aliases = second.aliases
  shown : relation.related weight first.toFragment second.toFragment

end FragmentRelation

end EntityQuery

import EntityQuery.Proofs.Expr.Silence
import EntityQuery.Proofs.Options.Setting
import EntityQuery.Proofs.Statement.Alignment
import EntityQuery.Proofs.Statement.Parts
import EntityQuery.Query

/-!
# Restriction of updates

An update of one record writes the rows of a condition.  Without a filter this is the primary key of
the record.  With a filter it is the filter alone, and where all of its items are silent there is no
condition left: the record is then written to every row.
-/

namespace EntityQuery

open Outcome

namespace Fragment

/-- A keyword stands before a text only. -/
theorem text_after (keyword : String) (fragment : Fragment) :
    (fragment.after keyword).text = if fragment.text = "" then "" else keyword ++ fragment.text := by
  unfold after
  by_cases vacant : fragment.text = ""
  · rw [if_pos (isEmpty_iff.2 vacant), if_pos vacant]
    rfl
  · rw [if_neg (mt isEmpty_iff.1 vacant), if_neg vacant]
    rfl

theorem text_clauses_between {head last : Fragment} (middle : Fragment)
    (headShown : head.text ≠ "") (lastShown : last.text ≠ "") :
    (clauses [head, middle, last]).text =
      head.text ++ (if middle.text = "" then "" else " " ++ middle.text) ++ " " ++ last.text := by
  have parts : [head, middle, last] = [head, middle] ++ [last] := rfl
  rw [parts, clauses_concat ⟨head, List.mem_cons_self, headShown⟩ lastShown]
  by_cases vacant : middle.text = ""
  · have kept : ([head, middle].filter fun part => !part.isEmpty) = [head] := by
      simp [isEmpty_iff.2 vacant, Bool.eq_false_iff.2 (isEmpty_iff.not.2 headShown)]
    have alone : clauses [head, middle] = head := by
      rw [clauses, joined, kept]
      rfl
    simp [alone, vacant]
  · have both : clauses [head, middle] = head ++ ofText " " ++ middle :=
      joined_eq_intercalate (by simp [headShown, vacant])
    simp [both, vacant, String.append_assoc]

end Fragment

namespace Grouping

/-- Equations of fields are never silent. -/
theorem not_isSilent_equalsAll {pairs : List (String × Expr)} (nonempty : pairs ≠ []) :
    ¬(equalsAll pairs).toExpr.IsSilent := by
  obtain ⟨pair, rest, rfl⟩ := List.exists_cons_of_ne_nil nonempty
  rintro (_ | silent)
  exact nomatch silent _ List.mem_cons_self

/-- The condition of a record is silent exactly if the record is empty. -/
theorem isSilent_ofRecord_iff {entries : Record} :
    (ofRecord entries).toExpr.IsSilent ↔ entries = [] := by
  constructor
  · intro silent
    by_contra nonempty
    exact not_isSilent_equalsAll (by simpa using nonempty) silent
  · rintro rfl
    exact .group (List.forall_mem_nil _)

end Grouping

namespace Plan

variable {plan : Plan} {record : Record} {statement : Statement} {scope : Scope}
  {filter : Fragment}

/-- A condition after its keyword, or nothing for an empty one. -/
def restriction (condition : String) : String :=
  if condition = "" then "" else " WHERE " ++ condition

theorem restriction_injective : Function.Injective restriction := by
  intro first second same
  unfold restriction at same
  split_ifs at same with none both both
  · rw [none, both]
  · exact absurd same.symm (by simp)
  · exact absurd same (by simp)
  · exact String.append_right_inj _ |>.1 same

/-- The statement writes the record to the rows of a condition, or to all rows if it is empty. -/
def UpdatesWhere (plan : Plan) (record : Record) (condition : String) (statement : Statement) :
    Prop :=
  ∃ scope source returned, plan.Writable scope source returned ∧
    statement.sql = "UPDATE " ++ source ++ " SET " ++
      (Fragment.joined ", " ((assignments plan.entity record).map assignment)).text ++
      restriction condition ++ " RETURNING " ++ (OutputColumn.list returned).text

/-- A record that carries all of the primary key has a condition on it. -/
theorem exists_of_primaryFilter (keyed : plan.entity.primaryFields ≠ [])
    (carried : ∀ field ∈ plan.entity.primaryFields, Record.has record field.name = true)
    (given : plan.primaryFilter scope record = .ok filter) :
    ∃ condition, condition ≠ "" ∧ filter.text = "WHERE " ++ condition := by
  rw [primaryFilter_of_carried keyed carried] at given
  obtain ⟨condition, formatted, whole⟩ := bind_eq_ok.1 given
  obtain rfl := pure_eq_ok.1 whole
  refine ⟨condition.text, fun vacant => ?_, rfl⟩
  have silent := (Expr.text_eq_empty_iff formatted).1 vacant
  exact Grouping.not_isSilent_equalsAll (by simpa using keyed) silent

/-- The condition of a filter is empty exactly if all items are silent. -/
theorem exists_of_whereClause (given : plan.whereClause scope = .ok filter) :
    ∃ condition, filter.text = (if condition = "" then "" else "WHERE " ++ condition) ∧
      (condition = "" ↔ ∀ item ∈ plan.filter, item.IsSilent) := by
  obtain ⟨parts, formatted, whole⟩ := bind_eq_ok.1 given
  obtain rfl := pure_eq_ok.1 whole
  refine ⟨(Junction.and.combine parts).text, Fragment.text_after .., ?_⟩
  rw [Fragment.text_combine_eq_empty, Expr.texts_eq_empty_iff formatted]

/-- The condition of an update is never empty, unless there is a filter with only silent items. -/
theorem exists_of_updateFilter (keyed : plan.entity.primaryFields ≠ [])
    (carried : ∀ field ∈ plan.entity.primaryFields, Record.has record field.name = true)
    (given : plan.updateFilter scope record = .ok filter) :
    ∃ condition, filter.text = (if condition = "" then "" else "WHERE " ++ condition) ∧
      (condition ≠ "" ↔ plan.filter = [] ∨ ∃ item ∈ plan.filter, ¬item.IsSilent) := by
  unfold updateFilter at given
  by_cases unfiltered : plan.filter = []
  · rw [if_pos (List.isEmpty_iff.2 unfiltered)] at given
    obtain ⟨condition, shown, written⟩ := exists_of_primaryFilter keyed carried given
    exact ⟨condition, by rw [if_neg shown, written], iff_of_true shown (.inl unfiltered)⟩
  · rw [if_neg (mt List.isEmpty_iff.1 unfiltered)] at given
    obtain ⟨condition, written, silent⟩ := exists_of_whereClause given
    refine ⟨condition, written, ?_⟩
    rw [ne_eq, silent, or_iff_right unfiltered]
    push Not
    rfl

/-- A statement has one condition. -/
theorem UpdatesWhere.unique {first second : String}
    (updates : plan.UpdatesWhere record first statement)
    (other : plan.UpdatesWhere record second statement) : first = second := by
  obtain ⟨scope, source, returned, ⟨resolved, sourced, shown⟩, spelled⟩ := updates
  obtain ⟨_, _, _, ⟨sameScope, sameSource, sameShown⟩, spelledToo⟩ := other
  obtain rfl := Except.ok.inj (resolved.symm.trans sameScope)
  obtain rfl := Except.ok.inj (sourced.symm.trans sameSource)
  obtain rfl := Except.ok.inj (shown.symm.trans sameShown)
  have same := spelled.symm.trans spelledToo
  rw [String.append_left_inj, String.append_left_inj, String.append_right_inj] at same
  exact restriction_injective same

theorem exists_updatesWhere (keyed : plan.entity.primaryFields ≠ [])
    (carried : ∀ field ∈ plan.entity.primaryFields, Record.has record field.name = true)
    (updated : plan.update record = .ok statement) :
    ∃ condition, plan.UpdatesWhere record condition statement ∧
      (condition ≠ "" ↔ plan.filter = [] ∨ ∃ item ∈ plan.filter, ¬item.IsSilent) := by
  obtain ⟨-, scope, source, filter, returned, writable, given, rfl⟩ := update_eq_ok.1 updated
  obtain ⟨condition, written, shown⟩ := exists_of_updateFilter keyed carried given
  refine ⟨condition, ⟨scope, source, returned, writable, ?_⟩, shown⟩
  rw [Statement.ofFragment, Fragment.text_clauses_between filter (by simp)
    (by simp [returningClause]), written]
  have returning (text : String) : " " ++ ("RETURNING " ++ text) = " RETURNING " ++ text :=
    (String.append_assoc ..).symm
  have whereClause (text : String) : " " ++ ("WHERE " ++ text) = " WHERE " ++ text :=
    (String.append_assoc ..).symm
  unfold restriction
  by_cases vacant : condition = ""
  · simp [vacant, returningClause, returning, String.append_assoc]
  · simp [vacant, returningClause, returning, whereClause, String.append_assoc]

end Plan

namespace ListOption

theorem isSilent_of_condition {value : Json} {item : Expr} (read : condition value = .ok item) :
    item.IsSilent ↔ value = .object [] := by
  cases value with
  | object entries =>
      obtain rfl := Except.ok.inj read
      rw [Grouping.isSilent_ofRecord_iff, Json.object.injEq]
  | _ => exact nomatch read

/-- Of the values that a filter can be set to, empty objects and arrays of empty objects have
nothing but silent items. -/
theorem conditions_silent_iff {value : Json} {items : List Expr}
    (read : conditions value = .ok items) :
    (items ≠ [] ∧ ∀ item ∈ items, item.IsSilent) ↔
      value = .object [] ∨ ∃ others, others ≠ [] ∧ value = .array others ∧
        ∀ other ∈ others, other = .object [] := by
  cases value with
  | array others =>
      have paired := mapM_eq_ok.1 read
      have alike : (∀ item ∈ items, item.IsSilent) ↔ ∀ other ∈ others, other = .object [] := by
        clear read
        induction paired with
        | nil => exact iff_of_true (List.forall_mem_nil _) (List.forall_mem_nil _)
        | cons first _ ih =>
            rw [List.forall_mem_cons, List.forall_mem_cons, isSilent_of_condition first, ih]
      have lengths : items = [] ↔ others = [] := by
        rw [← List.length_eq_zero_iff, ← paired.length_eq, List.length_eq_zero_iff]
      rw [alike, ne_eq, lengths]
      simp
  | object entries =>
      obtain rfl := Except.ok.inj read
      have single : (Grouping.ofRecord entries).toExpr.IsSilent ↔ entries = [] :=
        Grouping.isSilent_ofRecord_iff
      simp [single]
  | _ => exact nomatch read

end ListOption

namespace Options

variable {options changed : Options} {value : Json}

/-- Setting a filter to null clears it, and anything else adds the items that are read. -/
theorem items_of_setFilter (set : options.set "where" (some value) = (changed, .ok ())) :
    value = .null ∧ changed.items .filter = [] ∨
      ∃ items, ListOption.conditions value = .ok items ∧
        changed.items .filter = options.items .filter ++ items := by
  have found : named "where" = .ok (.list .filter) := named_text (.list .filter)
  by_cases given : value = .null
  · subst given
    unfold Options.set at set
    rw [found] at set
    have cleared := (clearNamed_text options (.list .filter)).symm.trans set
    obtain rfl := (Prod.mk.inj cleared).1
    exact .inl ⟨rfl, by rw [items, clear, held?_update_same, Option.getD_none]⟩
  · obtain ⟨held, read, rfl⟩ := (set_eq_ok found given).1 set
    exact .inr ⟨held, read, items_append options .filter held⟩

end Options

variable {query : Query} {record : Record} {statement : Statement}

/-- An update from a record with its primary key is restricted exactly if the query has no filter or
an item of its filter is not silent. -/
theorem Query.restricted_iff_not_silent (keyed : query.entity.primaryFields ≠ [])
    (carried : ∀ field ∈ query.entity.primaryFields, Record.has record field.name = true)
    (updated : query.plan.update record = .ok statement) :
    (∃ condition, query.plan.UpdatesWhere record condition statement) ∧
      ∀ condition, query.plan.UpdatesWhere record condition statement →
        (condition ≠ "" ↔ query.effectiveOptions.items .filter = [] ∨
          ∃ item ∈ (query.effectiveOptions.items .filter : List Expr), ¬item.IsSilent) := by
  obtain ⟨condition, updates, shown⟩ := Plan.exists_updatesWhere keyed carried updated
  refine ⟨⟨condition, updates⟩, fun other same => ?_⟩
  obtain rfl := updates.unique same
  exact shown

/-- After the filter of a query without one is set, an update writes its record to all rows exactly
if the filter is an empty object, or an array of nothing but empty objects. -/
theorem Query.unrestricted_after_set_iff {changed : Query} {value : Json}
    (alone : query.defaults = none) (unfiltered : query.options.items .filter = [])
    (set : query.set "where" (some value) = .ok changed)
    (keyed : query.entity.primaryFields ≠ [])
    (carried : ∀ field ∈ query.entity.primaryFields, Record.has record field.name = true)
    (updated : changed.plan.update record = .ok statement) :
    changed.plan.UpdatesWhere record "" statement ↔
      value = .object [] ∨ ∃ others, others ≠ [] ∧ value = .array others ∧
        ∀ other ∈ others, other = .object [] := by
  unfold Query.set at set
  split at set
  · next options given =>
      obtain rfl := Except.ok.inj set
      have filter : (query.withOptions options).plan.filter = options.items .filter := by
        simp only [plan, effectiveOptions, withOptions, alone]
      have primary : (query.withOptions options).plan.entity.primaryFields ≠ [] := keyed
      obtain ⟨condition, updates, shown⟩ := Plan.exists_updatesWhere primary carried updated
      have empty : (query.withOptions options).plan.UpdatesWhere record "" statement ↔
          condition = "" := ⟨fun other => updates.unique other, fun same => same ▸ updates⟩
      rw [empty, ← not_iff_not, ← ne_eq, shown, filter]
      obtain ⟨rfl, nothing⟩ | ⟨items, read, added⟩ := Options.items_of_setFilter given
      · exact iff_of_true (.inl nothing) (by simp)
      · rw [added, unfiltered, List.nil_append, ← ListOption.conditions_silent_iff read,
          not_and_or, not_not]
        push Not
        rfl
  · exact nomatch set

/-- A note under its number. -/
def Sample.revised : Record := [("id", .integer 1), ("note", .string "x")]

set_option maxRecDepth 10000 in
/-- Without a filter, the account with the number of the record is updated. -/
theorem Query.restricted_of_revised : ∃ condition, condition ≠ "" ∧
    (Query.on Sample.account).plan.UpdatesWhere Sample.revised condition
      ⟨"UPDATE account SET \"note?\" = ? WHERE account.id = ? RETURNING account.id, " ++
          "account.\"note?\"", [.string "x", .integer 1], ["id", "note"]⟩ := by
  have carried : ∀ field ∈ (Query.on Sample.account).entity.primaryFields,
      Record.has Sample.revised field.name = true := by decide
  obtain ⟨⟨condition, updates⟩, shown⟩ := Query.restricted_iff_not_silent (by decide) carried rfl
  exact ⟨condition, (shown condition updates).2 (.inl rfl), updates⟩

set_option maxRecDepth 10000 in
/-- With an empty object as its filter, the update of one account writes its note to all of them. -/
theorem Query.update_of_emptyObject :
    ∃ query, (Query.on Sample.account).set "where" (some (.object [])) = .ok query ∧
      query.plan.update Sample.revised =
        .ok ⟨"UPDATE account SET \"note?\" = ? RETURNING account.id, account.\"note?\"",
          [.string "x"], ["id", "note"]⟩ :=
  ⟨_, rfl, rfl⟩

end EntityQuery

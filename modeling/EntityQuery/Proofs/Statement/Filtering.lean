import EntityQuery.Proofs.Fragment.Separating
import EntityQuery.Proofs.Plan.Request
import EntityQuery.Proofs.Predicate.Joining
import EntityQuery.Proofs.Predicate.Structure
import EntityQuery.Proofs.Statement.Aliases
import EntityQuery.Proofs.Statement.Alignment

/-!
# Filters inside statements

A statement writes the items of a filter as one condition: after WHERE or HAVING alone, and after
the equations of keys in the ON of a join and in the WHERE of a batch update.  This condition says
all of them together unless an item with an OR outside parentheses stands next to something else.
-/

namespace EntityQuery

open Outcome Predicate

namespace Fragment

variable {separator : String} {parts : List Fragment} {part : Fragment}

theorem text_intercalate_cons (nonempty : parts ≠ []) (first : Fragment) :
    (intercalate separator (first :: parts)).text =
      first.text ++ separator ++ (intercalate separator parts).text :=
  congrArg text (intercalate_append (List.cons_ne_nil first []) nonempty)

theorem text_intercalate_concat (nonempty : parts ≠ []) (last : Fragment) :
    (intercalate separator (parts ++ [last])).text =
      (intercalate separator parts).text ++ separator ++ last.text :=
  congrArg text (intercalate_append nonempty (List.cons_ne_nil last []))

theorem text_intercalate_ofText (separator : String) (texts : List String) :
    (intercalate separator (texts.map ofText)).text = separator.intercalate texts := by
  have alone : (texts.map ofText).map text = texts := by
    rw [List.map_map]
    exact List.map_id texts
  rw [text_intercalate, alone]

theorem exists_around_intercalate (member : part ∈ parts) : ∃ before after,
    (intercalate separator parts).text = before ++ part.text ++ after := by
  induction parts with
  | nil => exact nomatch member
  | cons first rest ih =>
      by_cases alone : rest = []
      · subst alone
        obtain rfl := List.mem_singleton.1 member
        exact ⟨"", "", by simp [intercalate]⟩
      · rw [text_intercalate_cons alone]
        rcases List.mem_cons.1 member with rfl | later
        · refine ⟨"", separator ++ (intercalate separator rest).text, ?_⟩
          rw [String.empty_append, String.append_assoc]
        · obtain ⟨before, after, within⟩ := ih later
          refine ⟨first.text ++ separator ++ before, after, ?_⟩
          rw [within]
          simp only [String.append_assoc]

theorem exists_around_joined (separator : String) (member : part ∈ parts) :
    part.text = "" ∨
      ∃ before after, (joined separator parts).text = before ++ part.text ++ after := by
  by_cases vacant : part.text = ""
  · exact .inl vacant
  · exact .inr (exists_around_intercalate (List.mem_filter.2 ⟨member, not_isEmpty_iff.2 vacant⟩))

end Fragment

namespace Predicate

theorem text_condition_nil (items : List Fragment) :
    (condition [] items).text = (Junction.and.combine items).text := by
  unfold condition Fragment.joined
  rw [List.nil_append, List.filter_singleton]
  cases vacant : (Junction.and.combine items).isEmpty with
  | true => exact (Fragment.isEmpty_iff.1 vacant).symm
  | false => rfl

/-- After keys stand the combined items, if any of them has text. -/
theorem text_condition_keys {keys : List String} (shown : ∀ key ∈ keys, key ≠ "")
    (nonempty : keys ≠ []) (items : List Fragment) :
    (condition (keys.map .ofText) items).text =
      " AND ".intercalate keys ++ ((Junction.and.combine items).after " AND ").text := by
  have keysShown : ((keys.map Fragment.ofText).filter fun part => !part.isEmpty) =
      keys.map .ofText := by
    refine List.filter_eq_self.2 fun part member => ?_
    obtain ⟨key, inside, rfl⟩ := List.mem_map.1 member
    exact Fragment.not_isEmpty_iff.2 (shown key inside)
  unfold condition Fragment.joined Fragment.after
  rw [List.filter_append, keysShown, List.filter_singleton]
  cases vacant : (Junction.and.combine items).isEmpty with
  | true =>
      rw [← Fragment.text_intercalate_ofText]
      simp [Fragment.empty]
  | false =>
      rw [← Fragment.text_intercalate_ofText]
      have someKeys : keys.map Fragment.ofText ≠ [] := by simpa using nonempty
      simp [Fragment.text_intercalate_concat someKeys, Fragment.ofText, String.append_assoc]

end Predicate

/-- The test whether two operands are equal. -/
def equation (operands : String × String) : Predicate :=
  .test (.compare .equalTo operands.1 operands.2)

/-- The fragment is the equation of two columns. -/
structure Fragment.Equates (fragment : Fragment) (columns : String × String) : Prop where
  text : fragment.text = columns.1 ++ " = " ++ columns.2
  left : IsSingleAtom columns.1
  right : IsSingleAtom columns.2

namespace Fragment.Equates

variable {fragment : Fragment} {columns : String × String}

theorem tells (equates : fragment.Equates columns) : Tells fragment.text (equation columns) := by
  have told : Tells (.ofText columns.1 ++ infixKeyword (.compare .equalTo) ++
      .ofText columns.2 : Fragment).text (equation columns) :=
    tells_compare .equalTo equates.left equates.right
  rw [equates.text]
  exact told

/-- The equation has one conjunct, and no OR in it. -/
theorem hasConjuncts (equates : fragment.Equates columns) :
    HasConjuncts fragment [equation columns] ∧ fragment.text ≠ "" ∧ ¬HasOpenOr fragment.text := by
  obtain ⟨parts, consists, reads⟩ := equates.tells
  have known : ofParts? parts = some (equation columns) := reads.conjoins.ofParts?_eq (by simp)
  exact ⟨consists.conjunctsOf? known, consists.ne_empty known,
    consists.hasOpenOr_iff.not.2 (not_hasOr_of_test known)⟩

end Fragment.Equates

/-- A condition over the items of a filter of a plan. -/
inductive FilterClause
  /-- The WHERE of a statement. -/
  | filter (request : StatementRequest)
  /-- The HAVING of a SELECT. -/
  | having
  /-- The ON of a join to the plan, in a query of the given scope. -/
  | join (owner : Scope) (kind : JoinKind) (name : Option String) (pairs : List (String × String))

namespace FilterClause

/-- The text that the condition is written in. -/
def text (plan : Plan) : FilterClause → Except Error String
  | .filter request => return (← plan.statement request).sql
  | .having => return (← plan.select).sql
  | .join owner kind name pairs => do
      let joined ← Join.format owner ⟨kind, plan, name, pairs⟩
      return joined.clause.text

/-- The keyword in front of the condition. -/
def keyword : FilterClause → String
  | .filter _ => "WHERE "
  | .having => "HAVING "
  | .join .. => " ON "

/-- The equations of keys, with which the condition starts. -/
def keys (plan : Plan) : FilterClause → Except Error (List Fragment)
  | .filter (.updateBatch _) => do
      let scope ← plan.scope
      let qualifier ← scope.qualifier
      return (plan.entity.primaryFields.map (Plan.batchKey qualifier)).map .ofText
  | .filter _ | .having => return []
  | .join owner _ name pairs => do
      let head ← JoinHead.resolve owner plan.entity plan.tableAlias name pairs
      return head.keys

/-- The items of the filter. -/
def items (plan : Plan) : FilterClause → Except Error (List Fragment)
  | .filter request =>
      if request.contains .filter then do
        let scope ← plan.scope
        Expr.formatAll scope plan.filter
      else return []
  | .having => do
      let scope ← plan.scope
      Expr.formatAll scope plan.having
  | .join owner _ name pairs => do
      let head ← JoinHead.resolve owner plan.entity plan.tableAlias name pairs
      Expr.formatAll (head.scope plan.entity) plan.filter

/-- The text has the condition after the keyword, unless there is nothing to write. -/
def HasCondition (keyword condition text : String) : Prop :=
  condition = "" ∨ ∃ before after, text = before ++ keyword ++ condition ++ after

/-- The text is written with a condition over these keys, which equate these columns, and items. -/
structure Writes (clause : FilterClause) (plan : Plan) (keys items : List Fragment)
    (columns : List (String × String)) (text : String) : Prop where
  keysFormatted : clause.keys plan = .ok keys
  equations : List.Forall₂ Fragment.Equates keys columns
  itemsFormatted : clause.items plan = .ok items
  written : HasCondition clause.keyword (condition keys items).text text

theorem hasCondition_clauses {keyword condition : String} {clause : Fragment}
    {parts : List Fragment} (member : clause ∈ parts)
    (written : condition = "" ∨ clause.text = keyword ++ condition) :
    HasCondition keyword condition (Fragment.clauses parts).text := by
  rcases written with vacant | written
  · exact .inl vacant
  · rcases Fragment.exists_around_joined " " member with nothing | around
    · rw [written] at nothing
      exact .inl (String.append_eq_empty_iff.1 nothing).2
    · obtain ⟨before, after, whole⟩ := around
      rw [written, ← String.append_assoc] at whole
      exact .inr ⟨before, after, whole⟩

theorem text_predicate (keyword : String) (items : List Fragment) :
    (condition [] items).text = "" ∨
      (Clause.predicate keyword items).text = keyword ++ (condition [] items).text := by
  rw [text_condition_nil]
  unfold Clause.predicate Fragment.after
  cases vacant : (Junction.and.combine items).isEmpty with
  | true => exact .inl (Fragment.isEmpty_iff.1 vacant)
  | false => exact .inr rfl

section Statements

variable {plan : Plan} {statement : Statement}

theorem writes_of_select (selected : plan.select = .ok statement) :
    (∃ items, (filter .select).Writes plan [] items [] statement.sql) ∧
      ∃ items, having.Writes plan [] items [] statement.sql := by
  obtain ⟨scope, _, _, items, rest, before, between, after, resolved, -, -, itemsShown, restShown,
    written, -⟩ := Plan.clauses_of_select selected
  rw [written]
  refine ⟨⟨items, rfl, .nil, bind_eq_ok.2 ⟨scope, resolved, itemsShown⟩, ?_⟩,
    rest, rfl, .nil, bind_eq_ok.2 ⟨scope, resolved, restShown⟩, ?_⟩
  · exact hasCondition_clauses (by simp) (text_predicate "WHERE " items)
  · exact hasCondition_clauses (by simp) (text_predicate "HAVING " rest)

theorem writes_of_whereClause {request : StatementRequest} {scope : Scope} {clause : Fragment}
    {parts : List Fragment} (filters : request.contains .filter = true)
    (unkeyed : (filter request).keys plan = .ok []) (resolved : plan.scope = .ok scope)
    (formatted : plan.whereClause scope = .ok clause) (member : clause ∈ parts) :
    ∃ items, (filter request).Writes plan [] items [] (Fragment.clauses parts).text := by
  obtain ⟨items, itemsShown, built⟩ := bind_eq_ok.1 formatted
  refine ⟨items, unkeyed, .nil, ?_, ?_⟩
  · exact (if_pos filters).trans (bind_eq_ok.2 ⟨scope, resolved, itemsShown⟩)
  · obtain rfl := pure_eq_ok.1 built
    exact hasCondition_clauses member (text_predicate "WHERE " items)

theorem writes_of_count (counted : plan.count = .ok statement) :
    ∃ items, (filter .count).Writes plan [] items [] statement.sql := by
  unfold Plan.count at counted
  obtain ⟨scope, resolved, joined⟩ := bind_eq_ok.1 counted
  obtain ⟨tables, -, sourced⟩ := bind_eq_ok.1 joined
  obtain ⟨source, -, filtered⟩ := bind_eq_ok.1 sourced
  obtain ⟨clause, formatted, whole⟩ := bind_eq_ok.1 filtered
  rw [← pure_eq_ok.1 whole]
  exact writes_of_whereClause rfl rfl resolved formatted (by simp)

theorem writes_of_delete (deleted : plan.delete = .ok statement) :
    ∃ items, (filter .delete).Writes plan [] items [] statement.sql := by
  obtain ⟨scope, source, clause, returned, writable, formatted, rfl⟩ := Plan.delete_eq_ok.1 deleted
  exact writes_of_whereClause rfl rfl writable.resolved formatted (by simp)

/-- Without a filter of its own, an update is restricted to a record, and no item is written. -/
theorem writes_of_update {record : Record} (updated : plan.update record = .ok statement) :
    ∃ items, (filter (.update record)).Writes plan [] items [] statement.sql := by
  obtain ⟨-, scope, source, clause, returned, writable, formatted, rfl⟩ :=
    Plan.update_eq_ok.1 updated
  unfold Plan.updateFilter at formatted
  split at formatted
  case isTrue unfiltered =>
      refine ⟨[], rfl, .nil, bind_eq_ok.2 ⟨scope, writable.resolved, ?_⟩, .inl rfl⟩
      rw [List.isEmpty_iff.1 unfiltered]
      rfl
  case isFalse => exact writes_of_whereClause rfl rfl writable.resolved formatted (by simp)

theorem equates_batchKey (qualifier : Ident) (field : Field) :
    (Fragment.ofText (Plan.batchKey qualifier field)).Equates
      (qualifier.qualified field.column, Plan.valuesName.qualified field.column) :=
  ⟨rfl, isSingleAtom_qualified qualifier field.column,
    isSingleAtom_qualified Plan.valuesName field.column⟩

theorem equates_batchKeys (qualifier : Ident) (primary : List Field) :
    List.Forall₂ Fragment.Equates ((primary.map (Plan.batchKey qualifier)).map .ofText)
      (primary.map fun field =>
        (qualifier.qualified field.column, Plan.valuesName.qualified field.column)) := by
  rw [List.map_map, List.forall₂_map_left_iff, List.forall₂_map_right_iff]
  exact List.forall₂_same.2 fun field _ => equates_batchKey qualifier field

theorem batchKeys_ne_nil {qualifier : Ident} {primary fields : List Field}
    (faultless : Plan.batchFault? primary fields = none) :
    primary.map (Plan.batchKey qualifier) ≠ [] := by
  rintro nothing
  obtain rfl := List.map_eq_nil_iff.1 nothing
  exact nomatch faultless

theorem writes_of_updateBatch {records : List Record}
    (updated : plan.updateBatch records = .ok statement) : ∃ keys items columns,
      (filter (.updateBatch records)).Writes plan keys items columns statement.sql := by
  obtain ⟨record, rest, rfl, faultless, scope, source, returned, qualifier, items, writable,
    qualified, itemsShown, rfl⟩ := Plan.updateBatch_eq_ok.1 updated
  have equations := equates_batchKeys qualifier plan.entity.primaryFields
  have keysGiven : (filter (.updateBatch (record :: rest))).keys plan = .ok
      ((plan.entity.primaryFields.map (Plan.batchKey qualifier)).map .ofText) :=
    bind_eq_ok.2 ⟨scope, writable.resolved, bind_eq_ok.2 ⟨qualifier, qualified, rfl⟩⟩
  refine ⟨_, items, _, keysGiven, equations,
    bind_eq_ok.2 ⟨scope, writable.resolved, itemsShown⟩, ?_⟩
  refine hasCondition_clauses (List.mem_cons_of_mem _ (List.mem_cons_of_mem _
    List.mem_cons_self)) (.inr ?_)
  rw [text_condition_keys ?_ (batchKeys_ne_nil faultless), ← String.append_assoc]
  · rfl
  · intro key member
    obtain ⟨field, -, rfl⟩ := List.mem_map.1 member
    exact (equates_batchKey qualifier field).hasConjuncts.2.1

theorem equates_keyEquation {owner joined : Scope} {pair : String × String} {key : Fragment}
    (formatted : JoinedTable.keyEquation owner joined pair = .ok key) :
    ∃ columns, key.Equates columns := by
  obtain ⟨foreign, foreignResolved, owned⟩ := bind_eq_ok.1 formatted
  obtain ⟨own, ownResolved, whole⟩ := bind_eq_ok.1 owned
  obtain ⟨qualifier, column, rfl⟩ := Scope.qualified_of_column foreignResolved
  obtain ⟨ownQualifier, ownColumn, rfl⟩ := Scope.qualified_of_column ownResolved
  rw [← pure_eq_ok.1 whole]
  exact ⟨(_, _), rfl, isSingleAtom_qualified qualifier column,
    isSingleAtom_qualified ownQualifier ownColumn⟩

theorem equates_keyEquations {owner joined : Scope} {pairs : List (String × String)}
    {keys : List Fragment}
    (formatted : pairs.mapM (JoinedTable.keyEquation owner joined) = .ok keys) :
    ∃ columns, List.Forall₂ Fragment.Equates keys columns := by
  have each := mapM_eq_ok.1 formatted
  clear formatted
  induction each with
  | nil => exact ⟨[], .nil⟩
  | cons key _ ih =>
      obtain ⟨columns, equates⟩ := equates_keyEquation key
      obtain ⟨others, rest⟩ := ih
      exact ⟨columns :: others, .cons equates rest⟩

theorem equates_of_resolve {owner : Scope} {joined : Entity} {tableAlias name : Option String}
    {pairs : List (String × String)} {head : JoinHead}
    (resolved : JoinHead.resolve owner joined tableAlias name pairs = .ok head) :
    ∃ columns, List.Forall₂ Fragment.Equates head.keys columns := by
  unfold JoinHead.resolve at resolved
  obtain ⟨table, -, named⟩ := bind_eq_ok.1 resolved
  obtain ⟨joinAlias, -, paired⟩ := bind_eq_ok.1 named
  obtain ⟨pairs, -, sourced⟩ := bind_eq_ok.1 paired
  obtain ⟨source, -, keyed⟩ := bind_eq_ok.1 sourced
  obtain ⟨keys, formatted, whole⟩ := bind_eq_ok.1 keyed
  rw [← pure_eq_ok.1 whole]
  exact equates_keyEquations formatted

theorem writes_of_join {owner : Scope} {kind : JoinKind} {name : Option String}
    {pairs : List (String × String)} {joined : JoinedTable}
    (formatted : Join.format owner ⟨kind, plan, name, pairs⟩ = .ok joined) :
    ∃ keys items columns,
      (join owner kind name pairs).Writes plan keys items columns joined.clause.text := by
  obtain ⟨entity, tableAlias, columns, filter, having, settings, joins⟩ := plan
  rw [Join.format_eq] at formatted
  obtain ⟨head, resolved, filtered⟩ := bind_eq_ok.1 formatted
  obtain ⟨items, itemsShown, selected⟩ := bind_eq_ok.1 filtered
  obtain ⟨shown, -, whole⟩ := bind_eq_ok.1 selected
  rw [← pure_eq_ok.1 whole]
  obtain ⟨equated, equations⟩ := equates_of_resolve resolved
  refine ⟨head.keys, items, equated, bind_eq_ok.2 ⟨head, resolved, rfl⟩, equations,
    bind_eq_ok.2 ⟨head, resolved, itemsShown⟩, .inr ⟨_, "", (String.append_empty ..).symm⟩⟩

end Statements

/-- Every text with a filter in it is written with its condition. -/
theorem exists_writes {clause : FilterClause} {plan : Plan} {text : String}
    (written : clause.text plan = .ok text) :
    ∃ keys items columns, clause.Writes plan keys items columns text := by
  cases clause with
  | filter request =>
      obtain ⟨statement, formatted, shown⟩ := bind_eq_ok.1 written
      rw [← pure_eq_ok.1 shown]
      have unkeyed (only : ∃ items, (filter request).Writes plan [] items [] statement.sql) :
          ∃ keys items columns, (filter request).Writes plan keys items columns statement.sql := by
        obtain ⟨items, writes⟩ := only
        exact ⟨[], items, [], writes⟩
      cases request with
      | select => exact unkeyed (writes_of_select formatted).1
      | count => exact unkeyed (writes_of_count formatted)
      | insert _ => exact ⟨[], [], [], rfl, .nil, rfl, .inl rfl⟩
      | insertFrom _ => exact ⟨[], [], [], rfl, .nil, rfl, .inl rfl⟩
      | update _ => exact unkeyed (writes_of_update formatted)
      | updateBatch _ => exact writes_of_updateBatch formatted
      | delete => exact unkeyed (writes_of_delete formatted)
  | having =>
      obtain ⟨statement, formatted, shown⟩ := bind_eq_ok.1 written
      rw [← pure_eq_ok.1 shown]
      obtain ⟨items, writes⟩ := (writes_of_select formatted).2
      exact ⟨[], items, [], writes⟩
  | join owner kind name pairs =>
      obtain ⟨joined, formatted, shown⟩ := bind_eq_ok.1 written
      rw [← pure_eq_ok.1 shown]
      exact writes_of_join formatted

end FilterClause

namespace Sample

/-- One account with a new note. -/
def renoted : List Record := [[("id", .integer 1), ("note", .string "x")]]

/-- Two alternatives. -/
def alternatives : Fragment := ⟨"a = 1 OR b = 2", []⟩

theorem consists_alternatives : Consists alternatives.text
    (["a", "=", "1", "OR", "b", "=", "2"].map .word) :=
  .words ["a", "=", "1", "OR", "b", "=", "2"] (by decide)

/-- The statement that updates the account if a condition holds. -/
def renotedWhere (condition : String) : Statement :=
  ⟨"UPDATE account AS \"a?\" SET \"note?\" = v.\"note?\" FROM (VALUES (?::bigint, ?::text)) " ++
    "AS v(id, \"note?\") WHERE " ++ condition ++ " RETURNING \"a?\".\"note?\"",
    [.integer 1, .string "x"], ["note"]⟩

end Sample

/-- Every key and every item is a conjunct of the condition exactly if no item has an OR outside
parentheses or the condition is a single item. -/
theorem Plan.conjoins_iff_no_open_or (plan : Plan) (clause : FilterClause) {text : String}
    (written : clause.text plan = .ok text) :
    ∃ keys items columns, clause.Writes plan keys items columns text ∧
      ∀ groups, List.Forall₂ HasConjuncts items groups →
        ∃ found, HasConjuncts (condition keys items) found ∧
          (found = columns.map equation ++ groups.flatten ↔
            keys = [] ∧ (items.filter fun item => !item.isEmpty).length ≤ 1 ∨
              ∀ item ∈ items, ¬HasOpenOr item.text) := by
  obtain ⟨keys, items, columns, writes⟩ := FilterClause.exists_writes written
  refine ⟨keys, items, columns, writes, fun groups known => ?_⟩
  have keysKnown : List.Forall₂ HasConjuncts keys (columns.map fun pair => [equation pair]) :=
    List.forall₂_map_right_iff.2 <| writes.equations.imp fun _ _ equates => equates.hasConjuncts.1
  have plain : ∀ key ∈ keys, key.text ≠ "" ∧ ¬HasOpenOr key.text :=
    ((List.forall₂_and_left _ _).1 <| writes.equations.imp fun _ _ equates =>
      ⟨equates.hasConjuncts.2, equates⟩).1
  obtain ⟨found, whole, foundIff⟩ := hasConjuncts_condition keysKnown plain known
  rw [← List.flatMap_def, ← List.map_eq_flatMap] at foundIff
  exact ⟨found, whole, foundIff⟩

/-- In parentheses, alternatives are one conjunct beside the key. -/
theorem Plan.conjoins_of_alternatives : ∃ text keys items columns found,
    (FilterClause.filter (.updateBatch Sample.renoted)).text
        (Sample.notesWhere [.raw Sample.alternatives.parenthesized]) = .ok text ∧
      (FilterClause.filter (.updateBatch Sample.renoted)).Writes
        (Sample.notesWhere [.raw Sample.alternatives.parenthesized]) keys items columns text ∧
      HasConjuncts (condition keys items) found ∧
      found = columns.map equation ++
        [.junction .or [equation ("a", "1"), equation ("b", "2")]] := by
  have written : (FilterClause.filter (.updateBatch Sample.renoted)).text
      (Sample.notesWhere [.raw Sample.alternatives.parenthesized]) =
        .ok (Sample.renotedWhere "\"a?\".id = v.id AND (a = 1 OR b = 2)").sql := by
    rfl
  obtain ⟨keys, items, columns, writes, conjoins⟩ :=
    Plan.conjoins_iff_no_open_or _ _ written
  have formatted : [Sample.alternatives.parenthesized] = items :=
    Except.ok.inj ((rfl : _ = _).trans writes.itemsFormatted)
  subst formatted
  have alone : HasConjuncts Sample.alternatives
      [.junction .or [equation ("a", "1"), equation ("b", "2")]] :=
    Sample.consists_alternatives.conjunctsOf? rfl
  obtain ⟨known, hidden⟩ := alone.parenthesized (by decide)
  obtain ⟨found, whole, foundIff⟩ := conjoins _ (.cons known .nil)
  refine ⟨_, keys, _, columns, found, written, writes, whole, ?_⟩
  exact foundIff.2 (.inr (List.forall_mem_singleton.2 hidden))

set_option maxRecDepth 10000 in
/-- Without parentheses, the second alternative is enough for a row with any key. -/
theorem Plan.conjuncts_of_alternatives :
    (Sample.notesWhere [.raw Sample.alternatives]).updateBatch Sample.renoted =
        .ok (Sample.renotedWhere "\"a?\".id = v.id AND a = 1 OR b = 2") ∧
      read Sample.alternatives.text =
        some (.junction .or [equation ("a", "1"), equation ("b", "2")]) ∧
      read "\"a?\".id = v.id AND a = 1 OR b = 2" = some (.junction .or
        [.junction .and [equation ("\"a?\".id", "v.id"), equation ("a", "1")],
          equation ("b", "2")]) := by
  refine ⟨rfl, ?_, ?_⟩
  · rw [Sample.consists_alternatives.read]
    rfl
  · have field : IsPlainWord ".id" := by decide
    have column : Extends "\"a?\".id" :=
      (Ident.extends_quoted ['a', '?']).append (.of_isPlainWord field)
    have rest : Consists "= v.id AND a = 1 OR b = 2"
        (["=", "v.id", "AND", "a", "=", "1", "OR", "b", "=", "2"].map .word) :=
      .words ["=", "v.id", "AND", "a", "=", "1", "OR", "b", "=", "2"] (by decide)
    have whole := (Consists.word column (by decide)).append rest
    refine whole.read.trans ?_
    rfl

end EntityQuery

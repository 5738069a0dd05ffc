import EntityQuery.Proofs.Fragment.Balance
import EntityQuery.Proofs.Outcome
import EntityQuery.Proofs.Predicate.Spelling
import EntityQuery.Proofs.Statement.Operand

/-!
# Closed statements

The text of a SELECT closes every quote and parenthesis that it opens, so that in parentheses it is
one operand, whatever it contains.  Names are quoted where they need to be; only raw fragments have
to be closed by themselves.
-/

namespace EntityQuery

open Outcome Predicate

/-- The text of the fragment leaves nothing open. -/
def Fragment.IsClosed (fragment : Fragment) : Prop := Closed fragment.text

namespace Fragment.IsClosed

variable {first second fragment : Fragment} {parts : List Fragment}

theorem ofText {text : String} (closed : Closed text) : (Fragment.ofText text).IsClosed := closed

theorem keyword (text : String) (safe : IsSafe text) : (Fragment.ofText text).IsClosed :=
  Closed.of_isSafe safe

theorem empty : Fragment.empty.IsClosed := Closed.empty

theorem bound (value : Json) : (Fragment.bound value).IsClosed := keyword "?" (by decide)

theorem unbound : Fragment.unbound.IsClosed := keyword "?" (by decide)

theorem append (one : first.IsClosed) (two : second.IsClosed) : (first ++ second).IsClosed :=
  Closed.append one two

theorem parenthesized (closed : fragment.IsClosed) : fragment.parenthesized.IsClosed :=
  Closed.parenthesized closed

theorem intercalate {separator : String} (safe : IsSafe separator)
    (closed : ∀ part ∈ parts, part.IsClosed) :
    (Fragment.intercalate separator parts).IsClosed := by
  induction parts with
  | nil => exact empty
  | cons part rest ih =>
      have first := closed part List.mem_cons_self
      have others := ih fun other member => closed other (List.mem_cons_of_mem _ member)
      cases rest with
      | nil => exact first
      | cons _ _ => exact (first.append (keyword separator safe)).append others

theorem joined {separator : String} (safe : IsSafe separator)
    (closed : ∀ part ∈ parts, part.IsClosed) : (Fragment.joined separator parts).IsClosed :=
  intercalate safe fun part member => closed part (List.mem_filter.1 member).1

theorem after {keyword : String} (safe : IsSafe keyword) (closed : fragment.IsClosed) :
    (fragment.after keyword).IsClosed := by
  unfold Fragment.after
  split
  · exact empty
  · exact (IsClosed.keyword keyword safe).append closed

theorem combine (connective : Junction) (closed : ∀ part ∈ parts, part.IsClosed) :
    (connective.combine parts).IsClosed := by
  have kept : ∀ part ∈ parts.filter fun part => !part.isEmpty, part.IsClosed :=
    fun part member => closed part (List.mem_filter.1 member).1
  unfold Junction.combine
  generalize parts.filter (fun part => !part.isEmpty) = shown at kept
  match shown with
  | [] => exact empty
  | [part] => exact kept part List.mem_cons_self
  | _ :: _ :: _ => exact (intercalate (by cases connective <;> decide) kept).parenthesized

theorem predicate {keyword : String} (safe : IsSafe keyword)
    (closed : ∀ part ∈ parts, part.IsClosed) : (Clause.predicate keyword parts).IsClosed :=
  after safe (combine .and closed)

theorem listing {keyword : String} (safe : IsSafe keyword)
    (closed : ∀ part ∈ parts, part.IsClosed) : (Clause.listing keyword parts).IsClosed := by
  unfold Clause.listing
  split
  · exact empty
  · exact (IsClosed.keyword keyword safe).append (joined (by decide) closed)

theorem map_bound (values : List Json) :
    ∀ part ∈ values.map Fragment.bound, part.IsClosed := by
  intro part member
  obtain ⟨value, -, rfl⟩ := List.mem_map.1 member
  exact bound value

theorem operandSet (closed : ∀ part ∈ parts, part.IsClosed) :
    (EntityQuery.operandSet parts).IsClosed := by
  unfold EntityQuery.operandSet
  split
  · exact (bound .null).parenthesized
  · exact (joined (by decide) closed).parenthesized

theorem rangeBounds (closed : ∀ part ∈ parts, part.IsClosed) :
    (EntityQuery.rangeBounds parts).IsClosed := by
  have held (bound : Option Fragment) (within : ∀ part ∈ bound, part ∈ parts) :
      (bound.getD .unbound).IsClosed := by
    cases bound with
    | none => exact unbound
    | some part => exact closed part (within part rfl)
  have low := held parts.head? fun part member => List.mem_of_mem_head? member
  have high := held (parts.drop 1).head? fun part member =>
    List.mem_of_mem_drop (List.mem_of_mem_head? member)
  exact (low.append (keyword " AND " (by decide))).append high

theorem rowOperand (items : List Expr) (closed : ∀ part ∈ parts, part.IsClosed) :
    (EntityQuery.rowOperand items parts).IsClosed := by
  unfold EntityQuery.rowOperand
  split
  · exact bound _
  · exact (joined (by decide) closed).parenthesized

theorem enclose (operand : Expr) (closed : fragment.IsClosed) :
    (operand.enclose fragment).IsClosed := by
  unfold Expr.enclose
  split
  · exact closed
  · exact closed.parenthesized

end Fragment.IsClosed

theorem Operator.isSafe_keyword (operator : Operator) : IsSafe operator.keyword := by
  rcases operator with (_ | _) | (_ | _ | _ | _ | _ | _ | _) | _ | _ | _ | _ | (_ | _ | _) |
    (_ | _) <;> decide

theorem Operator.closed_keyword (operator : Operator) : Closed operator.keyword :=
  .of_isSafe operator.isSafe_keyword

theorem isClosed_infixKeyword (operator : Operator) : (infixKeyword operator).IsClosed :=
  have blank : Closed " " := .of_isSafe (by decide)
  (blank.append operator.closed_keyword).append blank

theorem isClosed_leadingKeyword (operator : Operator) : (leadingKeyword operator).IsClosed :=
  operator.closed_keyword.append (.of_isSafe (by decide))

theorem Entity.closed_qualifiedTable (entity : Entity) : Yields Closed entity.qualifiedTable := by
  unfold qualifiedTable
  refine .anyway fun table => .ok ?_
  split
  · exact (Ident.extends_qualified _ table).closed
  · exact table.extends_toSql.closed

namespace Scope

theorem closed_column (scope : Scope) (name : String) : Yields Closed (scope.column name) := by
  intro text resolved
  obtain ⟨qualifier, column, rfl⟩ := qualified_of_column resolved
  exact (Ident.extends_qualified qualifier column).closed

theorem closed_fieldColumn (scope : Scope) (reference : FieldRef) :
    Yields Closed (scope.fieldColumn reference) := by
  intro text resolved
  obtain ⟨qualifier, column, rfl⟩ := qualified_of_fieldColumn resolved
  exact (Ident.extends_qualified qualifier column).closed

theorem closed_source (scope : Scope) : Yields Closed scope.source := by
  refine scope.entity.closed_qualifiedTable.bind fun table closed => .ok ?_
  split
  · exact (closed.append (.of_isSafe (by decide))).append (Ident.extends_toSql _).closed
  · exact closed

end Scope

/-- The target is a column or a closed fragment. -/
def Target.IsClosed : Target → Prop
  | .name _ | .field _ => True
  | .raw fragment => fragment.IsClosed

/-- All targets of the grouping and ordering clauses are closed. -/
def PlanSettings.IsClosed (settings : PlanSettings) : Prop :=
  (∀ target ∈ settings.groupBy, target.IsClosed) ∧ ∀ term ∈ settings.orderBy, term.target.IsClosed

theorem Target.closed_format (scope : Scope) {target : Target} (closed : target.IsClosed) :
    Yields Fragment.IsClosed (target.format scope) := by
  cases target with
  | name name => exact (scope.closed_column name).bind fun _ column => .ok column
  | field reference => exact (scope.closed_fieldColumn reference).bind fun _ column => .ok column
  | raw fragment => exact .ok closed

theorem closed_quantifiedTarget (scope : Scope) {target : Option Target}
    (closed : ∀ held ∈ target, held.IsClosed) :
    Yields Fragment.IsClosed (quantifiedTarget scope target) := by
  cases target with
  | none => exact .ok .empty
  | some held =>
      refine (held.closed_format scope (closed held rfl)).bind fun fragment shown => .ok ?_
      split
      · exact shown
      · exact shown.append (.keyword " = " (by decide))

namespace Clause

variable {settings : PlanSettings}

theorem closed_groupBy (scope : Scope) (closed : settings.IsClosed) :
    Yields Fragment.IsClosed (groupBy scope settings) :=
  (Yields.mapM fun target member => target.closed_format scope (closed.1 target member)).bind
    fun _ targets => .ok (.listing (by decide) targets)

theorem closed_orderBy (scope : Scope) (closed : settings.IsClosed) :
    Yields Fragment.IsClosed (orderBy scope settings) := by
  have terms : ∀ term ∈ settings.orderBy, Yields Fragment.IsClosed (orderTerm scope term) := by
    intro term member
    refine (term.target.closed_format scope (closed.2 term member)).bind fun _ target => .ok ?_
    have direction : IsSafe (" " ++ term.direction.keyword) := by
      cases term.direction <;> decide
    exact target.append (.keyword _ direction)
  exact (Yields.mapM terms).bind fun _ shown => .ok (.listing (by decide) shown)

theorem isSafe_append {first second : String} (one : IsSafe first) (two : IsSafe second) :
    IsSafe (first ++ second) := by
  intro char member
  rw [String.toList_append] at member
  exact (List.mem_append.1 member).elim (one char) (two char)

theorem isSafe_toString (number : Nat) : IsSafe (toString number) := by
  intro char member
  rw [Nat.toString_eq_ofList_toDigits, String.toList_ofList] at member
  have digit := Nat.isDigit_of_mem_toDigits (by decide) (by decide) member
  intro marked
  simp only [List.mem_cons, List.not_mem_nil, or_false] at marked
  rcases marked with rfl | rfl | rfl | rfl | rfl | rfl <;> exact absurd digit (by decide)

theorem closed_limit (settings : PlanSettings) : Closed (limit settings) := by
  unfold limit
  split
  · exact .of_isSafe (isSafe_append (by decide) (isSafe_toString _))
  · exact .empty

theorem closed_offset (settings : PlanSettings) : Closed (offset settings) := by
  unfold offset
  split
  · exact .of_isSafe (isSafe_append (by decide) (isSafe_toString _))
  · exact .empty

theorem closed_locking (details : Locking) : Yields Closed (locking details) := by
  unfold locking
  split
  case h_1 => exact .ok .empty
  case h_2 mode chosen =>
      refine .anyway fun tables => .ok ?_
      have modeClosed : Closed mode := by
        unfold lockMode at chosen
        split_ifs at chosen <;> obtain rfl := Option.some.inj chosen <;>
          exact .of_isSafe (by decide)
      have listed : Closed (", ".intercalate (tables.map Ident.toSql)) := by
        refine .intercalate (.of_isSafe (by decide)) fun text member => ?_
        obtain ⟨table, -, rfl⟩ := List.mem_map.1 member
        exact table.extends_toSql.closed
      refine ((modeClosed.append ?_).append ?_).append ?_
      · split
        · exact .empty
        · exact (Closed.of_isSafe (by decide)).append listed
      · split <;> exact .of_isSafe (by decide)
      · split <;> exact .of_isSafe (by decide)

end Clause

theorem OutputColumn.closed_ofSource (scope : Scope) (outputAlias : String) (source : ColumnSource)
    {fragment : Fragment} (closed : fragment.IsClosed) :
    Yields (fun column => column.fragment.IsClosed)
      (OutputColumn.ofSource scope outputAlias source fragment) := by
  unfold ofSource
  dsimp only
  split_ifs
  · exact .ok closed
  · cases Ident.ofName outputAlias with
    | ok ident =>
        have keyword : Closed " AS " := .of_isSafe (by decide)
        have named := keyword.append ident.extends_toSql.closed
        exact .ok (closed.append named)
    | error fault => exact fun _ failed => nomatch failed

theorem JoinedTable.closed_keyEquation (owner joined : Scope) (pair : String × String) :
    Yields Fragment.IsClosed (keyEquation owner joined pair) :=
  (joined.closed_column pair.2).bind fun _ foreign => (owner.closed_column pair.1).bind
    fun _ own => .ok ((foreign.append (.of_isSafe (by decide))).append own)

/-- The names and key equations of a join are closed. -/
theorem JoinHead.closed_resolve (owner : Scope) (joined : Entity) (tableAlias name : Option String)
    (pairs : List (String × String)) :
    Yields (fun head => Closed head.source ∧ ∀ key ∈ head.keys, key.IsClosed)
      (resolve owner joined tableAlias name pairs) := by
  unfold resolve
  refine .anyway fun table => .anyway fun joinAlias => .anyway fun pairs => ?_
  refine joined.closed_qualifiedTable.bind fun source closed => ?_
  have keys : Yields (fun keys => ∀ key ∈ keys, key.IsClosed)
      (pairs.mapM (JoinedTable.keyEquation owner ⟨joined, some joinAlias⟩)) :=
    Yields.mapM fun pair _ => JoinedTable.closed_keyEquation owner ⟨joined, some joinAlias⟩ pair
  exact keys.bind fun _ shown => .ok ⟨closed, shown⟩

theorem JoinedTable.closed_joinClause (kind : JoinKind) (table joinAlias : Ident) {source : String}
    {keys filter : List Fragment} (sourceClosed : Closed source)
    (keysClosed : ∀ key ∈ keys, key.IsClosed) (filterClosed : ∀ part ∈ filter, part.IsClosed) :
    (joinClause kind table source joinAlias keys filter).IsClosed := by
  have keyword : Closed kind.keyword := by cases kind <;> exact .of_isSafe (by decide)
  have named : Closed
      (if joinAlias = table then source else source ++ " AS " ++ joinAlias.toSql) := by
    split
    · exact sourceClosed
    · exact (sourceClosed.append (.of_isSafe (by decide))).append joinAlias.extends_toSql.closed
  refine Fragment.IsClosed.append ((keyword.append named).append (.of_isSafe (by decide))) ?_
  refine .joined (by decide) fun part member => ?_
  rcases List.mem_append.1 member with key | last
  · exact keysClosed part key
  · rw [List.mem_singleton.1 last]
    exact .combine .and filterClosed

mutual

/-- Every raw fragment in the expression, and in the queries nested in it, is closed by itself. -/
def Expr.IsClosed : Expr → Prop
  | .value _ | .field _ | .column _ | .unbound => True
  | .list items | .group _ items => Expr.AreClosed items
  | .subquery plan => plan.IsClosed
  | .raw fragment => fragment.IsClosed
  | .condition condition => condition.IsClosed

def Expr.AreClosed : List Expr → Prop
  | [] => True
  | item :: rest => item.IsClosed ∧ Expr.AreClosed rest

def Condition.IsClosed : Condition → Prop
  | .nullTest _ target => target.IsClosed
  | .compare _ target operand | .between target operand | .isIn target operand =>
      target.IsClosed ∧ operand.IsClosed
  | .quantified _ target operand => (∀ held ∈ target, held.IsClosed) ∧ operand.IsClosed
  | .not operand | .exists operand | .junction _ operand => operand.IsClosed

def ColumnSource.IsClosed : ColumnSource → Prop
  | .field _ => True
  | .raw fragment => fragment.IsClosed
  | .subquery plan => plan.IsClosed

def Column.AreClosed : List Column → Prop
  | [] => True
  | ⟨_, source⟩ :: rest => source.IsClosed ∧ Column.AreClosed rest

def Plan.IsClosed : Plan → Prop
  | ⟨_, _, columns, filter, having, settings, joins⟩ =>
      Column.AreClosed columns ∧ Expr.AreClosed filter ∧ Expr.AreClosed having ∧
        settings.IsClosed ∧ Join.AreClosed joins

def Join.AreClosed : List Join → Prop
  | [] => True
  | ⟨_, ⟨_, _, columns, filter, _, _, _⟩, _, _⟩ :: rest =>
      Column.AreClosed columns ∧ Expr.AreClosed filter ∧ Join.AreClosed rest

end

/-- All fragments of a list are closed. -/
def Fragment.AreClosed (fragments : List Fragment) : Prop :=
  ∀ fragment ∈ fragments, fragment.IsClosed

theorem Fragment.areClosed_cons {first : Fragment} {rest : List Fragment}
    (one : first.IsClosed) (others : Fragment.AreClosed rest) :
    Fragment.AreClosed (first :: rest) :=
  List.forall_mem_cons.2 ⟨one, others⟩

/-- The fragments of the columns are closed. -/
def OutputColumn.AreClosed (columns : List OutputColumn) : Prop :=
  ∀ column ∈ columns, column.fragment.IsClosed

mutual

theorem Expr.closed_format (scope : Scope) : ∀ expr : Expr, expr.IsClosed →
    Yields Fragment.IsClosed (expr.format scope)
  | .value value, _ => .ok (.bound value)
  | .list items, closed => by
      simp only [Expr.format]
      exact (Expr.closed_formatAll scope items closed).bind fun _ parts =>
        .ok (.rowOperand items parts)
  | .field reference, _ => by
      simp only [Expr.format]
      exact (scope.closed_fieldColumn reference).bind fun _ column => .ok column
  | .column name, _ => by
      simp only [Expr.format]
      exact (scope.closed_column name).bind fun _ column => .ok column
  | .subquery plan, closed => by
      simp only [Expr.format]
      exact (Plan.closed_select plan closed).bind fun _ statement => .ok statement.parenthesized
  | .raw _, closed => .ok closed
  | .condition condition, closed => Condition.closed_format scope condition closed
  | .group connective items, closed => by
      simp only [Expr.format]
      exact (Expr.closed_formatAll scope items closed).bind fun _ parts =>
        .ok (.combine connective parts)
  | .unbound, _ => .ok .unbound

theorem Expr.closed_formatAll (scope : Scope) : ∀ items : List Expr, Expr.AreClosed items →
    Yields Fragment.AreClosed (Expr.formatAll scope items)
  | [], _ => .ok nofun
  | item :: rest, closed => by
      simp only [Expr.formatAll]
      exact (Expr.closed_format scope item closed.1).bind fun _ first =>
        (Expr.closed_formatAll scope rest closed.2).bind fun _ others =>
          .ok (Fragment.areClosed_cons first others)

theorem Condition.closed_format (scope : Scope) : ∀ condition : Condition, condition.IsClosed →
    Yields Fragment.IsClosed (condition.format scope)
  | .nullTest negated target, closed => by
      simp only [Condition.format]
      exact (target.closed_format scope closed).bind fun _ shown =>
        .ok (shown.append (.ofText ((Closed.of_isSafe (by decide)).append
          (Operator.nullTest negated).closed_keyword)))
  | .compare comparison target operand, closed => by
      simp only [Condition.format]
      exact (target.closed_format scope closed.1).bind fun _ shown =>
        (Expr.closed_format scope operand closed.2).bind fun _ inner =>
          .ok ((shown.append (isClosed_infixKeyword _)).append inner)
  | .between target bounds, closed => by
      have targets := target.closed_format scope closed.1
      have ranged {parts : List Fragment} {shown : Fragment} (targetClosed : shown.IsClosed)
          (partsClosed : Fragment.AreClosed parts) :
          (shown ++ infixKeyword .between ++ rangeBounds parts).IsClosed :=
        (targetClosed.append (isClosed_infixKeyword _)).append (.rangeBounds partsClosed)
      have single {bounds : Expr} (one : bounds.isOperandSet = false)
          (formatted : Yields Fragment.IsClosed (bounds.format scope)) :
          Yields Fragment.IsClosed ((Condition.between target bounds).format scope) := by
        rw [Condition.format_between_of_single one]
        exact targets.bind fun _ shown => formatted.bind fun _ inner =>
          .ok ((shown.append (isClosed_infixKeyword _)).append inner)
      cases bounds with
      | list items =>
          match items with
          | [] =>
              rw [Condition.format_between_nil]
              exact targets.bind fun _ shown => .ok (ranged shown nofun)
          | [low] =>
              rw [Condition.format_between_one]
              exact targets.bind fun _ shown =>
                (Expr.closed_format scope low closed.2.1).bind fun _ lower =>
                  .ok (ranged shown (Fragment.areClosed_cons lower nofun))
          | low :: high :: rest =>
              rw [Condition.format_between_two]
              exact targets.bind fun _ shown =>
                (Expr.closed_format scope low closed.2.1).bind fun _ lower =>
                  (Expr.closed_format scope high closed.2.2.1).bind fun _ upper =>
                    .ok (ranged shown
                      (Fragment.areClosed_cons lower (Fragment.areClosed_cons upper nofun)))
      | value held =>
          cases held with
          | array items =>
              rw [Condition.format_between_array]
              exact targets.bind fun _ shown => .ok (ranged shown (.map_bound items))
          | _ => exact single rfl (Expr.closed_format scope _ closed.2)
      | _ => exact single rfl (Expr.closed_format scope _ closed.2)
  | .isIn target choices, closed => by
      have targets := target.closed_format scope closed.1
      have single {choices : Expr} (one : choices.isOperandSet = false)
          (formatted : Yields Fragment.IsClosed (choices.format scope)) :
          Yields Fragment.IsClosed ((Condition.isIn target choices).format scope) := by
        rw [Condition.format_isIn_of_single one]
        exact targets.bind fun _ shown => formatted.bind fun _ inner =>
          .ok ((shown.append (isClosed_infixKeyword _)).append (.enclose choices inner))
      cases choices with
      | list items =>
          rw [Condition.format_isIn_list]
          exact targets.bind fun _ shown =>
            (Expr.closed_formatAll scope items closed.2).bind fun _ parts =>
              .ok ((shown.append (isClosed_infixKeyword _)).append (.operandSet parts))
      | value held =>
          cases held with
          | array items =>
              rw [Condition.format_isIn_array]
              exact targets.bind fun _ shown =>
                .ok ((shown.append (isClosed_infixKeyword _)).append
                  (.operandSet (.map_bound items)))
          | _ => exact single rfl (Expr.closed_format scope _ closed.2)
      | _ => exact single rfl (Expr.closed_format scope _ closed.2)
  | .not operand, closed => by
      simp only [Condition.format]
      exact (Expr.closed_format scope operand closed).bind fun _ inner =>
        .ok ((isClosed_leadingKeyword _).append inner)
  | .exists operand, closed => by
      simp only [Condition.format]
      exact (Expr.closed_format scope operand closed).bind fun _ inner =>
        .ok ((isClosed_leadingKeyword _).append inner)
  | .quantified quantifier target operand, closed => by
      rw [Condition.format_quantified]
      exact (closed_quantifiedTarget scope closed.1).bind fun _ shown =>
        (Expr.closed_format scope operand closed.2).bind fun _ inner =>
          .ok ((shown.append (isClosed_leadingKeyword _)).append (.enclose operand inner))
  | .junction connective operand, closed => by
      have single {operand : Expr} (one : operand.isList = false)
          (formatted : Yields Fragment.IsClosed (operand.format scope)) :
          Yields Fragment.IsClosed ((Condition.junction connective operand).format scope) := by
        rw [Condition.format_junction_of_single one]
        exact formatted.bind fun _ part =>
          .ok (.combine connective (Fragment.areClosed_cons part nofun))
      cases operand with
      | list items =>
          rw [Condition.format_junction_list]
          exact (Expr.closed_formatAll scope items closed).bind fun _ parts =>
            .ok (.combine connective parts)
      | _ => exact single rfl (Expr.closed_format scope _ closed)

theorem ColumnSource.closed_format (scope : Scope) : ∀ source : ColumnSource, source.IsClosed →
    Yields Fragment.IsClosed (source.format scope)
  | .field name, _ => by
      simp only [ColumnSource.format]
      exact (scope.closed_column name).bind fun _ column => .ok column
  | .raw _, closed => .ok closed
  | .subquery plan, closed => by
      simp only [ColumnSource.format]
      exact (Plan.closed_select plan closed).bind fun _ statement => .ok statement.parenthesized

theorem Column.closed_formatAll (scope : Scope) (join : Option String) :
    ∀ columns : List Column, Column.AreClosed columns →
      Yields OutputColumn.AreClosed (Column.formatAll scope join columns)
  | [], _ => .ok nofun
  | ⟨name, source⟩ :: rest, closed => by
      simp only [Column.formatAll, Column.format]
      refine .bind ((ColumnSource.closed_format scope source closed.1).bind fun _ shown =>
        OutputColumn.closed_ofSource scope _ source shown) fun _ first => ?_
      refine (Column.closed_formatAll scope join rest closed.2).bind fun _ others => ?_
      exact .ok (List.forall_mem_cons.2 ⟨first, others⟩)

theorem Join.closed_formatAll (owner : Scope) : ∀ joins : List Join, Join.AreClosed joins →
    Yields (fun joined => ∀ table ∈ joined, table.clause.IsClosed ∧
      OutputColumn.AreClosed table.columns) (Join.formatAll owner joins)
  | [], _ => .ok nofun
  | ⟨kind, ⟨entity, tableAlias, columns, filter, having, settings, joins⟩, name, pairs⟩ :: rest,
    closed => by
      simp only [Join.formatAll, Join.format_eq]
      have first : Yields (fun table : JoinedTable => table.clause.IsClosed ∧
          OutputColumn.AreClosed table.columns) (do
            let head ← JoinHead.resolve owner entity tableAlias name pairs
            let filter ← Expr.formatAll (head.scope entity) filter
            let columns ← Column.formatAll (head.scope entity) (some head.name) columns
            return (⟨JoinedTable.joinClause kind head.table head.source head.joinAlias head.keys
              filter, columns⟩ : JoinedTable)) := by
        refine (JoinHead.closed_resolve owner entity tableAlias name pairs).bind ?_
        intro head known
        refine (Expr.closed_formatAll _ filter closed.2.1).bind fun _ conditions => ?_
        refine (Column.closed_formatAll _ _ columns closed.1).bind fun _ shown => .ok ⟨?_, shown⟩
        exact JoinedTable.closed_joinClause kind _ _ known.1 known.2 conditions
      exact first.bind fun _ table => (Join.closed_formatAll owner rest closed.2.2).bind
        fun _ others => .ok (List.forall_mem_cons.2 ⟨table, others⟩)

theorem Plan.closed_select : ∀ plan : Plan, plan.IsClosed →
    Yields (fun statement => statement.toFragment.IsClosed) plan.select
  | ⟨entity, tableAlias, columns, filter, having, settings, joins⟩, closed => by
      obtain ⟨columnsClosed, filterClosed, havingClosed, settingsClosed, joinsClosed⟩ := closed
      simp only [Plan.select]
      refine .anyway fun scope => ?_
      refine (Column.closed_formatAll scope none columns columnsClosed).bind fun own ownClosed => ?_
      refine (Join.closed_formatAll scope joins joinsClosed).bind fun joined joinedClosed => ?_
      refine scope.closed_source.bind fun source sourceClosed => ?_
      refine (Expr.closed_formatAll scope filter filterClosed).bind fun filter filtered => ?_
      refine (Clause.closed_groupBy scope settingsClosed).bind fun groupBy grouped => ?_
      refine (Expr.closed_formatAll scope having havingClosed).bind fun having restricted => ?_
      refine (Clause.closed_orderBy scope settingsClosed).bind fun orderBy ordered => ?_
      refine (Clause.closed_locking settings.locking).bind fun locking locked => .ok ?_
      have head : IsSafe ("SELECT " ++ if settings.distinct then "DISTINCT " else "") := by
        split <;> decide
      have selected : Fragment.AreClosed
          ((own ++ JoinedTable.allColumns joined).map OutputColumn.fragment) := by
        intro fragment member
        obtain ⟨column, columnMember, rfl⟩ := List.mem_map.1 member
        rcases List.mem_append.1 columnMember with owned | joinedColumn
        · exact ownClosed column owned
        · obtain ⟨table, tableMember, within⟩ := List.mem_flatMap.1 joinedColumn
          exact (joinedClosed table tableMember).2 column within
      have clauses : Fragment.AreClosed (joined.map JoinedTable.clause) := by
        intro fragment member
        obtain ⟨table, tableMember, rfl⟩ := List.mem_map.1 member
        exact (joinedClosed table tableMember).1
      refine Fragment.IsClosed.joined (by decide) ?_
      simp only [List.forall_mem_cons]
      exact ⟨(Fragment.IsClosed.keyword _ head).append (.joined (by decide) selected),
        (Closed.of_isSafe (by decide)).append sourceClosed, .joined (by decide) clauses,
        .predicate (by decide) filtered, grouped, .predicate (by decide) restricted, ordered,
        Clause.closed_limit settings, Clause.closed_offset settings, locked, nofun⟩

end

end EntityQuery

import EntityQuery.Proofs.Expr.Silence
import EntityQuery.Proofs.Predicate.Structure
import EntityQuery.Proofs.Statement.Parts

/-!
# Layout of conditions

Every operator puts its operands at places of their own: after a keyword, on both sides of the AND
of a range, or between parentheses.  Such a place is left empty exactly if its operand is silent;
a list of choices is silent if it has items and all of them are, since only a list without items is
replaced by a null.
-/

namespace EntityQuery

open Outcome

/-- The bounds or choices that a range or a membership test takes one by one. -/
def Expr.items? : Expr → Option (List Expr)
  | .list items => some items
  | .value (.array values) => some (values.map .value)
  | _ => none

/-- A bound of a range; a placeholder where it is missing. -/
def Expr.formatBound (scope : Scope) (bounds : List Expr) (place : Nat) : Except Error Fragment :=
  match bounds[place]? with
  | some bound => bound.format scope
  | none => .ok .unbound

/-- The text of an operand with the parentheses around it, and what stands between them; a raw
fragment stands as it is. -/
inductive Expr.Encloses (scope : Scope) : Expr → String → String → Prop
  | subquery {plan : Plan} {statement : Statement} (selected : plan.select = .ok statement) :
      Encloses scope (.subquery plan) ("(" ++ statement.sql ++ ")") statement.sql
  | raw (fragment : Fragment) : Encloses scope (.raw fragment) fragment.text fragment.text
  | bare {operand : Expr} {shown : Fragment} (bare : operand.isEnclosed = false)
      (formatted : operand.format scope = .ok shown) :
      Encloses scope operand ("(" ++ shown.text ++ ")") shown.text

/-- The text of a condition, and the texts at the places of its operands. -/
inductive Condition.Shows (scope : Scope) : Condition → String → List String → Prop
  | nullTest (negated : Bool) {target : Target} {column : Fragment}
      (placed : target.format scope = .ok column) :
      Shows scope (.nullTest negated target)
        (column.text ++ " " ++ (Operator.nullTest negated).keyword) []
  | compare (comparison : Comparison) {target : Target} {operand : Expr} {column shown : Fragment}
      (placed : target.format scope = .ok column) (formatted : operand.format scope = .ok shown) :
      Shows scope (.compare comparison target operand)
        (column.text ++ " " ++ (Operator.compare comparison).keyword ++ " " ++ shown.text)
        [shown.text]
  | bounds {target : Target} {operand : Expr} {items : List Expr} {column low high : Fragment}
      (placed : target.format scope = .ok column) (taken : operand.items? = some items)
      (lowShown : Expr.formatBound scope items 0 = .ok low)
      (highShown : Expr.formatBound scope items 1 = .ok high) :
      Shows scope (.between target operand)
        (column.text ++ " BETWEEN " ++ low.text ++ " AND " ++ high.text) [low.text, high.text]
  | range {target : Target} {operand : Expr} {column shown : Fragment}
      (placed : target.format scope = .ok column) (whole : operand.items? = none)
      (formatted : operand.format scope = .ok shown) :
      Shows scope (.between target operand) (column.text ++ " BETWEEN " ++ shown.text) [shown.text]
  | noChoice {target : Target} {operand : Expr} {column : Fragment}
      (placed : target.format scope = .ok column) (taken : operand.items? = some []) :
      Shows scope (.isIn target operand) (column.text ++ " IN (?)") ["?"]
  | choices {target : Target} {operand : Expr} {items : List Expr} {column : Fragment}
      {parts : List Fragment} (placed : target.format scope = .ok column)
      (taken : operand.items? = some items) (nonempty : items ≠ [])
      (formatted : Expr.formatAll scope items = .ok parts) :
      Shows scope (.isIn target operand)
        (column.text ++ " IN " ++ ("(" ++ (Fragment.joined ", " parts).text ++ ")"))
        [(Fragment.joined ", " parts).text]
  | choice {target : Target} {operand : Expr} {column : Fragment} {text inside : String}
      (placed : target.format scope = .ok column) (whole : operand.items? = none)
      (enclosed : operand.Encloses scope text inside) :
      Shows scope (.isIn target operand) (column.text ++ " IN " ++ text) [inside]
  | not {operand : Expr} {shown : Fragment} (formatted : operand.format scope = .ok shown) :
      Shows scope (.not operand) ("NOT " ++ shown.text) [shown.text]
  | exists {operand : Expr} {shown : Fragment} (formatted : operand.format scope = .ok shown) :
      Shows scope (.exists operand) ("EXISTS " ++ shown.text) [shown.text]
  | quantified (quantifier : Quantifier) {target : Option Target} {operand : Expr}
      {column : Fragment} {text inside : String}
      (placed : quantifiedTarget scope target = .ok column)
      (enclosed : operand.Encloses scope text inside) :
      Shows scope (.quantified quantifier target operand)
        (column.text ++ (Operator.quantified quantifier).keyword ++ " " ++ text) [inside]
  | junction {connective : Junction} {operand : Expr} {shown : Fragment}
      (formatted : (Condition.junction connective operand).format scope = .ok shown) :
      Shows scope (.junction connective operand) shown.text []

/-- An operand is missing: it is silent, or it is a list of choices that are all silent. -/
def Condition.LacksOperand : Condition → Prop
  | .nullTest _ _ | .junction _ _ => False
  | .compare _ _ operand | .not operand | .exists operand | .quantified _ _ operand =>
      operand.IsSilent
  | .between _ bounds =>
      match bounds.items? with
      | some items => ∃ bound ∈ items.take 2, bound.IsSilent
      | none => bounds.IsSilent
  | .isIn _ choices =>
      match choices.items? with
      | some items => items ≠ [] ∧ ∀ item ∈ items, item.IsSilent
      | none => choices.IsSilent

theorem Expr.isOperandSet_eq (operand : Expr) : operand.isOperandSet = operand.items?.isSome := by
  cases operand with
  | value held => cases held <;> rfl
  | _ => rfl

theorem Plan.sql_ne_empty_of_select {plan : Plan} {statement : Statement}
    (selected : plan.select = .ok statement) : statement.sql ≠ "" := by
  obtain ⟨scope, own, joined, source, filter, groups, having, order, locking, -, -, -, -, -, -, -,
    -, -, rfl⟩ := select_eq_ok.1 selected
  have shown : (.ofText ("SELECT " ++ if plan.settings.distinct then "DISTINCT " else "") ++
      OutputColumn.list (own ++ JoinedTable.allColumns joined) : Fragment).text ≠ "" := by simp
  obtain ⟨after, same⟩ := Fragment.exists_clauses_cons shown _
  rw [Statement.ofFragment, same]
  simp

namespace Expr

variable {scope : Scope} {operand : Expr} {items : List Expr} {fragment : Fragment}

theorem Encloses.inside_eq_empty_iff {text inside : String}
    (encloses : operand.Encloses scope text inside) : inside = "" ↔ operand.IsSilent := by
  cases encloses with
  | subquery selected =>
      exact iff_of_false (Plan.sql_ne_empty_of_select selected) nofun
  | raw fragment =>
      have formatted : (Expr.raw fragment).format scope = .ok fragment := rfl
      exact text_eq_empty_iff formatted
  | bare _ formatted => exact text_eq_empty_iff formatted

/-- What stands for an operand encloses it. -/
theorem exists_encloses (formatted : operand.format scope = .ok fragment) :
    ∃ inside, operand.Encloses scope (operand.enclose fragment).text inside := by
  cases operand with
  | subquery plan =>
      obtain ⟨statement, selected, whole⟩ := bind_eq_ok.1 formatted
      obtain rfl := pure_eq_ok.1 whole
      exact ⟨_, .subquery selected⟩
  | raw written =>
      obtain rfl := Except.ok.inj formatted
      exact ⟨_, .raw written⟩
  | _ => exact ⟨_, .bare rfl formatted⟩

theorem isEmpty_formatAll {parts : List Fragment} (nonempty : items ≠ [])
    (formatted : formatAll scope items = .ok parts) : parts.isEmpty = false := by
  obtain ⟨item, rest, rfl⟩ := List.exists_cons_of_ne_nil nonempty
  obtain ⟨first, -, more⟩ := bind_eq_ok.1 formatted
  obtain ⟨others, -, whole⟩ := bind_eq_ok.1 more
  obtain rfl := pure_eq_ok.1 whole
  rfl

end Expr

namespace Condition

variable {scope : Scope} {target : Target} {operand : Expr} {items : List Expr}
  {condition : Condition} {fragment : Fragment}

/-- A range takes the first two bounds, in the place of which there may be placeholders. -/
theorem format_between_of_items (taken : operand.items? = some items) :
    (between target operand).format scope = do
      let column ← target.format scope
      let low ← Expr.formatBound scope items 0
      let high ← Expr.formatBound scope items 1
      return column ++ infixKeyword .between ++ rangeBounds [low, high] := by
  cases operand with
  | list bounds =>
      obtain rfl := Option.some.inj taken
      match bounds with
      | [] => exact format_between_nil
      | [low] => exact format_between_one low
      | low :: high :: rest => exact format_between_two low high rest
  | value held =>
      cases held with
      | array values =>
          obtain rfl := Option.some.inj taken
          rw [format_between_array]
          rcases values with _ | ⟨low, _ | ⟨high, rest⟩⟩ <;> rfl
      | _ => exact nomatch taken
  | _ => exact nomatch taken

theorem format_isIn_of_items (taken : operand.items? = some items) :
    (isIn target operand).format scope = do
      let column ← target.format scope
      let parts ← Expr.formatAll scope items
      return column ++ infixKeyword .isIn ++ operandSet parts := by
  cases operand with
  | list choices =>
      obtain rfl := Option.some.inj taken
      exact format_isIn_list choices
  | value held =>
      cases held with
      | array values =>
          obtain rfl := Option.some.inj taken
          rw [format_isIn_array, Expr.formatAll_map_value]
          rfl
      | _ => exact nomatch taken
  | _ => exact nomatch taken

/-- A condition that is formatted has its operands at their places. -/
theorem exists_shows (formatted : condition.format scope = .ok fragment) :
    ∃ operands, condition.Shows scope fragment.text operands := by
  cases condition with
  | nullTest negated target =>
      obtain ⟨column, placed, whole⟩ := bind_eq_ok.1 formatted
      obtain rfl := pure_eq_ok.1 whole
      have shows := Shows.nullTest negated placed
      exact ⟨_, by simpa [String.append_assoc] using shows⟩
  | compare comparison target operand =>
      obtain ⟨column, placed, more⟩ := bind_eq_ok.1 formatted
      obtain ⟨shown, written, whole⟩ := bind_eq_ok.1 more
      obtain rfl := pure_eq_ok.1 whole
      have shows := Shows.compare comparison placed written
      exact ⟨_, by simpa [infixKeyword, String.append_assoc] using shows⟩
  | between target operand =>
      cases taken : operand.items? with
      | some items =>
          rw [format_between_of_items taken] at formatted
          obtain ⟨column, placed, more⟩ := bind_eq_ok.1 formatted
          obtain ⟨low, lowShown, rest⟩ := bind_eq_ok.1 more
          obtain ⟨high, highShown, whole⟩ := bind_eq_ok.1 rest
          obtain rfl := pure_eq_ok.1 whole
          have shows := Shows.bounds placed taken lowShown highShown
          refine ⟨[low.text, high.text], ?_⟩
          simpa [infixKeyword, Operator.keyword, rangeBounds, String.append_assoc] using shows
      | none =>
          rw [format_between_of_single (by rw [Expr.isOperandSet_eq, taken]; rfl)] at formatted
          obtain ⟨column, placed, more⟩ := bind_eq_ok.1 formatted
          obtain ⟨shown, written, whole⟩ := bind_eq_ok.1 more
          obtain rfl := pure_eq_ok.1 whole
          have shows := Shows.range placed taken written
          exact ⟨_, by simpa [infixKeyword, Operator.keyword, String.append_assoc] using shows⟩
  | isIn target operand =>
      cases taken : operand.items? with
      | some items =>
          rw [format_isIn_of_items taken] at formatted
          obtain ⟨column, placed, more⟩ := bind_eq_ok.1 formatted
          obtain ⟨parts, written, whole⟩ := bind_eq_ok.1 more
          obtain rfl := pure_eq_ok.1 whole
          by_cases nothing : items = []
          · subst nothing
            obtain rfl := Except.ok.inj written
            have shows := Shows.noChoice placed taken
            refine ⟨["?"], ?_⟩
            simpa [infixKeyword, Operator.keyword, operandSet, Fragment.parenthesized,
              Fragment.bound, String.append_assoc] using shows
          · have shows := Shows.choices placed taken nothing written
            have several : parts.isEmpty = false := Expr.isEmpty_formatAll nothing written
            refine ⟨[(Fragment.joined ", " parts).text], ?_⟩
            simpa [infixKeyword, Operator.keyword, operandSet, several, Fragment.parenthesized,
              String.append_assoc] using shows
      | none =>
          rw [format_isIn_of_single (by rw [Expr.isOperandSet_eq, taken]; rfl)] at formatted
          obtain ⟨column, placed, more⟩ := bind_eq_ok.1 formatted
          obtain ⟨shown, written, whole⟩ := bind_eq_ok.1 more
          obtain rfl := pure_eq_ok.1 whole
          obtain ⟨inside, enclosed⟩ := Expr.exists_encloses written
          have shows := Shows.choice placed taken enclosed
          exact ⟨_, by simpa [infixKeyword, Operator.keyword, String.append_assoc] using shows⟩
  | not operand =>
      obtain ⟨shown, written, whole⟩ := bind_eq_ok.1 formatted
      obtain rfl := pure_eq_ok.1 whole
      exact ⟨_, .not written⟩
  | «exists» operand =>
      obtain ⟨shown, written, whole⟩ := bind_eq_ok.1 formatted
      obtain rfl := pure_eq_ok.1 whole
      exact ⟨_, .exists written⟩
  | quantified quantifier target operand =>
      rw [format_quantified] at formatted
      obtain ⟨column, placed, more⟩ := bind_eq_ok.1 formatted
      obtain ⟨shown, written, whole⟩ := bind_eq_ok.1 more
      obtain rfl := pure_eq_ok.1 whole
      obtain ⟨inside, enclosed⟩ := Expr.exists_encloses written
      have shows := Shows.quantified quantifier placed enclosed
      exact ⟨_, by simpa [leadingKeyword, String.append_assoc] using shows⟩
  | junction connective operand => exact ⟨_, .junction formatted⟩

theorem mem_bounds_iff {low high : Fragment}
    (lowShown : Expr.formatBound scope items 0 = .ok low)
    (highShown : Expr.formatBound scope items 1 = .ok high) :
    "" ∈ [low.text, high.text] ↔ ∃ bound ∈ items.take 2, bound.IsSilent := by
  have missing {place : Nat} {bound : Fragment} (absent : items[place]? = none)
      (shown : Expr.formatBound scope items place = .ok bound) : bound.text ≠ "" := by
    rw [Expr.formatBound, absent] at shown
    obtain rfl := Except.ok.inj shown
    decide
  have either : "" ∈ [low.text, high.text] ↔ low.text = "" ∨ high.text = "" := by
    rw [List.mem_pair, @eq_comm _ "" low.text, @eq_comm _ "" high.text]
  match items with
  | [] =>
      rw [either]
      exact iff_of_false (not_or.2 ⟨missing rfl lowShown, missing rfl highShown⟩) (by simp)
  | [first] =>
      have lowSilent : low.text = "" ↔ first.IsSilent := Expr.text_eq_empty_iff lowShown
      rw [either, lowSilent, or_iff_left (missing rfl highShown)]
      simp
  | first :: second :: rest =>
      have lowSilent : low.text = "" ↔ first.IsSilent := Expr.text_eq_empty_iff lowShown
      have highSilent : high.text = "" ↔ second.IsSilent := Expr.text_eq_empty_iff highShown
      rw [either, lowSilent, highSilent]
      simp

/-- A place is left empty exactly if the condition lacks an operand. -/
theorem Shows.mem_empty_iff {text : String} {operands : List String}
    (shows : condition.Shows scope text operands) : "" ∈ operands ↔ condition.LacksOperand := by
  cases shows with
  | nullTest => exact iff_of_false List.not_mem_nil id
  | compare _ _ formatted | not formatted | «exists» formatted =>
      rw [List.mem_singleton, eq_comm, Expr.text_eq_empty_iff formatted, LacksOperand]
  | bounds _ taken lowShown highShown =>
      rw [mem_bounds_iff lowShown highShown, LacksOperand, taken]
  | range _ whole formatted =>
      rw [List.mem_singleton, eq_comm, Expr.text_eq_empty_iff formatted, LacksOperand, whole]
  | noChoice _ taken =>
      rw [LacksOperand, taken]
      exact iff_of_false (by decide) fun lacking => lacking.1 rfl
  | choices _ taken nonempty formatted =>
      rw [List.mem_singleton, eq_comm, Fragment.text_joined_eq_empty,
        Expr.texts_eq_empty_iff formatted, LacksOperand, taken]
      exact (and_iff_right nonempty).symm
  | choice _ whole enclosed =>
      rw [List.mem_singleton, eq_comm, enclosed.inside_eq_empty_iff, LacksOperand, whole]
  | quantified _ _ enclosed =>
      rw [List.mem_singleton, eq_comm, enclosed.inside_eq_empty_iff, LacksOperand]
  | junction => exact iff_of_false List.not_mem_nil id

/-- A condition that is formatted has its operands at the places that its operator has for them, and
none of these places is empty exactly if no operand is silent. -/
theorem shown_iff_lacks_none (formatted : condition.format scope = .ok fragment) :
    (∃ operands, condition.Shows scope fragment.text operands) ∧
      ∀ operands, condition.Shows scope fragment.text operands →
        ((∀ operand ∈ operands, operand ≠ "") ↔ ¬condition.LacksOperand) := by
  refine ⟨exists_shows formatted, fun operands shows => ?_⟩
  rw [← shows.mem_empty_iff]
  exact ⟨fun shown member => shown "" member rfl, fun absent operand member same =>
    absent (same ▸ member)⟩

set_option maxRecDepth 10000 in
/-- A choice beside an empty group is written, so that the parentheses are not empty. -/
theorem shown_of_choice :
    ∃ operands, (Condition.isIn (.name "id") (.list [.group .and [], .value (.integer 1)])).Shows
        Sample.accounts "account.id IN (?)" operands ∧ ∀ operand ∈ operands, operand ≠ "" := by
  have formatted : (Condition.isIn (.name "id")
      (.list [.group .and [], .value (.integer 1)])).format Sample.accounts =
        .ok ⟨"account.id IN (?)", [.integer 1]⟩ := rfl
  obtain ⟨⟨operands, shows⟩, shown⟩ := shown_iff_lacks_none formatted
  refine ⟨operands, shows, (shown operands shows).2 fun lacking => ?_⟩
  exact nomatch lacking.2 (.value (.integer 1)) (List.mem_cons_of_mem _ List.mem_cons_self)

set_option maxRecDepth 10000 in
/-- An empty group leaves nothing between the parentheses of a membership test, and nothing after
NOT. -/
theorem format_of_emptyGroup :
    (Condition.isIn (.name "id") (.list [.group .and []])).format Sample.accounts =
        .ok ⟨"account.id IN ()", []⟩ ∧
      (Condition.not (.group .and [])).format Sample.accounts = .ok ⟨"NOT ", []⟩ :=
  ⟨rfl, rfl⟩

end Condition

end EntityQuery

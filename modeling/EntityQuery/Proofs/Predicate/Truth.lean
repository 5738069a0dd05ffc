import EntityQuery.Proofs.Fragment.Separating
import EntityQuery.Proofs.Predicate.Counting
import EntityQuery.Proofs.Predicate.Structure

/-!
# Truth values

A condition that is read back is evaluated in a row with the three truth values of SQL.  Its tests
take the values in the order of their placeholders, and a comparison with null is neither true nor
false.  The truth of a negated or combined fragment follows from the truth of its parts.
-/

namespace EntityQuery

open Placeholder Predicate

/-- A truth value of SQL. -/
inductive Truth
  | fails
  | unknown
  | holds
  deriving DecidableEq

namespace Truth

def ofBool (held : Bool) : Truth := if held then holds else fails

protected def not : Truth → Truth
  | fails => holds
  | unknown => unknown
  | holds => fails

protected def and : Truth → Truth → Truth
  | fails, _ | _, fails => fails
  | unknown, _ | _, unknown => unknown
  | holds, holds => holds

protected def or : Truth → Truth → Truth
  | holds, _ | _, holds => holds
  | unknown, _ | _, unknown => unknown
  | fails, fails => fails

variable {one two : Truth}

@[simp]
theorem not_eq_holds : one.not = holds ↔ one = fails := by
  cases one <;> decide

@[simp]
theorem not_eq_fails : one.not = fails ↔ one = holds := by
  cases one <;> decide

@[simp]
theorem and_eq_holds : one.and two = holds ↔ one = holds ∧ two = holds := by
  cases one <;> cases two <;> decide

@[simp]
theorem and_eq_fails : one.and two = fails ↔ one = fails ∨ two = fails := by
  cases one <;> cases two <;> decide

@[simp]
theorem or_eq_holds : one.or two = holds ↔ one = holds ∨ two = holds := by
  cases one <;> cases two <;> decide

@[simp]
theorem or_eq_fails : one.or two = fails ↔ one = fails ∧ two = fails := by
  cases one <;> cases two <;> decide

theorem ofBool_or (first second : Bool) :
    ofBool (first || second) = (ofBool first).or (ofBool second) := by
  cases first <;> cases second <;> rfl

end Truth

namespace Junction

def both : Junction → Truth → Truth → Truth
  | .and => .and
  | .or => .or

/-- The truth of combined operands; that of none is neutral. -/
def truth (connective : Junction) (operands : List Truth) : Truth :=
  operands.foldr connective.both (match connective with | .and => .holds | .or => .fails)

theorem truth_cons (connective : Junction) (first : Truth) (rest : List Truth) :
    connective.truth (first :: rest) = connective.both first (connective.truth rest) :=
  rfl

theorem truth_singleton (connective : Junction) (only : Truth) :
    connective.truth [only] = only := by
  cases connective <;> cases only <;> rfl

/-- One of several holds if any of them does. -/
theorem truth_or_map {α : Type} (found : α → Bool) (items : List α) :
    Junction.or.truth (items.map fun item => .ofBool (found item)) = .ofBool (items.any found) := by
  induction items with
  | nil => rfl
  | cons item rest ih =>
      rw [List.map_cons, truth_cons, ih, List.any_cons, Truth.ofBool_or]
      rfl

variable {limit one two first second : Truth}

theorem both_eq_iff (connective : Junction) (decided : limit ≠ .unknown)
    (left : one = limit ↔ two = limit) (right : first = limit ↔ second = limit) :
    connective.both one first = limit ↔ connective.both two second = limit := by
  cases limit with
  | unknown => exact absurd rfl decided
  | holds => cases connective <;> simp [both, left, right]
  | fails => cases connective <;> simp [both, left, right]

/-- Of an operand it only matters whether it is the truth value that is asked for. -/
theorem truth_eq_iff (connective : Junction) (decided : limit ≠ .unknown)
    (same : one = limit ↔ two = limit) (before after : List Truth) :
    connective.truth (before ++ one :: after) = limit ↔
      connective.truth (before ++ two :: after) = limit := by
  induction before with
  | nil => exact both_eq_iff connective decided same Iff.rfl
  | cons first rest ih => exact both_eq_iff connective decided Iff.rfl ih

end Junction

/-- A row, and what the database makes of tests in it. -/
structure Valuation where
  /-- The value of a column, by its text. -/
  column : String → Json
  /-- Whether two values are equal, neither of which is null. -/
  same : Json → Json → Bool
  /-- The truth of a test, other than one for membership in a list of values. -/
  other : Test → List Json → Truth

/-- The text of a list of placeholders in parentheses. -/
def placeholderSet (size : Nat) : String := "(" ++ ", ".intercalate (List.replicate size "?") ++ ")"

namespace Valuation

/-- The truth of an equation. -/
def equals (row : Valuation) (first second : Json) : Truth :=
  if first.isNull || second.isNull then .unknown else .ofBool (row.same first second)

/-- The truth of membership: a value is in a list if it equals one of its items. -/
def isIn (row : Valuation) (held : Json) (choices : List Json) : Truth :=
  Junction.or.truth (choices.map (row.equals held))

theorem equals_of_known (row : Valuation) {first second : Json} (one : first ≠ .null)
    (two : second ≠ .null) : row.equals first second = .ofBool (row.same first second) := by
  have known {value : Json} (present : value ≠ .null) : value.isNull = false := by
    cases value <;> first | rfl | exact absurd rfl present
  simp [equals, known one, known two]

theorem isIn_of_known (row : Valuation) {held : Json} {choices : List Json} (known : held ≠ .null)
    (given : ∀ choice ∈ choices, choice ≠ .null) :
    row.isIn held choices = .ofBool (choices.any (row.same held)) := by
  have equations : choices.map (row.equals held) =
      choices.map fun choice => .ofBool (row.same held choice) :=
    List.map_congr_left fun choice member => row.equals_of_known known (given choice member)
  rw [isIn, equations, Junction.truth_or_map]

theorem isIn_null (row : Valuation) (held : Json) : row.isIn held [.null] = .unknown := by
  have unequal : row.equals held .null = .unknown := by simp [equals, Json.isNull]
  rw [isIn, List.map_singleton, unequal]
  rfl

/-- The truth of a test with the values of its placeholders. -/
def test (row : Valuation) : Test → List Json → Truth
  | .isIn target choices, values =>
      if choices = placeholderSet values.length then row.isIn (row.column target) values
      else row.other (.isIn target choices) values
  | test, values => row.other test values

end Valuation

namespace Predicate

mutual

/-- The truth of a predicate in a row, with the values of its placeholders. -/
def truth (row : Valuation) : Predicate → List Json → Truth
  | .test held, values => row.test held values
  | .not operand, values => (operand.truth row values).not
  | .junction connective operands, values => connective.truth (truths row operands values)

/-- Each operand takes its values from those that are left. -/
def truths (row : Valuation) : List Predicate → List Json → List Truth
  | [], _ => []
  | first :: rest, values =>
      first.truth row (values.take first.placeholders) ::
        truths row rest (values.drop first.placeholders)

end

variable {row : Valuation}

theorem truths_cons_append {tree : Predicate} {own : List Json}
    (full : tree.placeholders = own.length) (rest : List Predicate) (others : List Json) :
    truths row (tree :: rest) (own ++ others) = tree.truth row own :: truths row rest others := by
  rw [truths, List.take_left' full.symm, List.drop_left' full.symm]

theorem truth_of_combined? {connective : Junction} {trees : List Predicate} {tree : Predicate}
    {values : List Json} (combined : combined? connective trees = some tree)
    (full : placeholdersOf trees = values.length) :
    tree.truth row values = connective.truth (truths row trees values) := by
  match trees with
  | [] => exact nomatch combined
  | [only] =>
      obtain rfl := Option.some.inj combined
      rw [placeholdersOf_singleton] at full
      have alone : truths row [only] (values ++ []) = [only.truth row values] :=
        truths_cons_append full [] []
      rw [List.append_nil] at alone
      rw [alone, Junction.truth_singleton]
  | _ :: _ :: _ =>
      obtain rfl := Option.some.inj combined
      rw [truth]

end Predicate

namespace Fragment

variable {row : Valuation} {fragment : Fragment} {truth : Truth}

/-- The truth of a condition in a row, if its text is read and each placeholder has a value. -/
def truth? (row : Valuation) (fragment : Fragment) : Option Truth :=
  if count fragment.text = fragment.values.length then
    (Predicate.read fragment.text).map fun tree => tree.truth row fragment.values
  else none

/-- The fragment tells a predicate of this truth, and each placeholder has a value. -/
def Evaluates (row : Valuation) (fragment : Fragment) (truth : Truth) : Prop :=
  ∃ tree, Tells fragment.text tree ∧ tree.placeholders = fragment.values.length ∧
    tree.truth row fragment.values = truth

theorem truth?_of_empty (nothing : fragment.text = "") : fragment.truth? row = none := by
  have unread : Predicate.read "" = none := rfl
  simp [truth?, nothing, unread]

namespace Evaluates

theorem truth?_eq (evaluates : Evaluates row fragment truth) :
    fragment.truth? row = some truth := by
  obtain ⟨tree, tells, full, rfl⟩ := evaluates
  rw [truth?, ← placeholders_of_read tells.read, if_pos full, tells.read, Option.map_some]

theorem ne_empty (evaluates : Evaluates row fragment truth) : fragment.text ≠ "" := by
  obtain ⟨tree, tells, -⟩ := evaluates
  exact tells.ne_empty

theorem not (evaluates : Evaluates row fragment truth) :
    Evaluates row (leadingKeyword .not ++ fragment) truth.not := by
  obtain ⟨tree, tells, full, rfl⟩ := evaluates
  exact ⟨_, tells_not tells, full, rfl⟩

/-- What the items of a list tell, and how they share the values of the list. -/
theorem exists_trees {fragments : List Fragment} {truths : List Truth}
    (evaluate : List.Forall₂ (Evaluates row) fragments truths) : ∃ trees : List Predicate,
      List.Forall₂ (fun fragment tree => Tells fragment.text tree) fragments trees ∧
        placeholdersOf trees = (fragments.flatMap values).length ∧
          Predicate.truths row trees (fragments.flatMap values) = truths := by
  induction evaluate with
  | nil => exact ⟨[], .nil, rfl, rfl⟩
  | cons first _ ih =>
      obtain ⟨tree, tells, full, rfl⟩ := first
      obtain ⟨trees, othersTell, othersFull, rfl⟩ := ih
      refine ⟨tree :: trees, .cons tells othersTell, ?_, ?_⟩
      · rw [placeholdersOf, full, othersFull, List.flatMap_cons, List.length_append]
      · rw [List.flatMap_cons, truths_cons_append full]

/-- The items that have text, combined, have the truth of the items, combined. -/
theorem combine (connective : Junction) {fragments : List Fragment} {truths : List Truth}
    (evaluate : List.Forall₂ (Evaluates row)
      (fragments.filter fun fragment => !fragment.isEmpty) truths) (shown : truths ≠ []) :
    Evaluates row (connective.combine fragments) (connective.truth truths) := by
  obtain ⟨trees, tell, full, rfl⟩ := exists_trees evaluate
  have tells := tells?_combine connective tell
  have values := values_combine_filter connective fragments
  cases combined : combined? connective trees with
  | none =>
      have nothing : trees = [] := by
        rw [← List.isEmpty_iff, ← combined?_isNone connective, combined]
        rfl
      subst nothing
      exact absurd rfl shown
  | some tree =>
      rw [combined] at tells
      refine ⟨tree, tells, ?_, ?_⟩
      · rw [placeholders_of_combined? combined, full, values]
      · rw [values, truth_of_combined? combined full]

end Evaluates

end Fragment

end EntityQuery

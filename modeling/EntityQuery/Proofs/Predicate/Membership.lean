import EntityQuery.Proofs.Plan.SelfRelated
import EntityQuery.Proofs.Predicate.Truth
import EntityQuery.Proofs.Statement.Transport
import Mathlib.Algebra.Group.Nat.Even

/-!
# Membership within conditions

A membership test stands somewhere within NOTs, ANDs and ORs.  What is written for the whole has the
truth that follows from that of the test and of what stands beside it, wherever that is.  So a test
over a list with items is as good as its outcome.  Without items it is written with a null, which
makes it unknown: below an even number of NOTs this selects the rows that a test without success
would select, and below a single NOT it does not.
-/

namespace EntityQuery

open Outcome Placeholder Predicate

variable {scope : Scope} {row : Valuation}

/-- Nothing, or a condition that is read and has a value for each placeholder. -/
def Fragment.IsReadable (fragment : Fragment) : Prop :=
  fragment.text = "" ∨
    (∃ tree, Tells fragment.text tree) ∧ count fragment.text = fragment.values.length

namespace Expr

/-- The truth in a row of what is written for an expression, if that says something. -/
def truth? (scope : Scope) (row : Valuation) (expr : Expr) : Option Truth :=
  (expr.format scope).toOption.bind (Fragment.truth? row)

/-- What is written for the expression can be read. -/
def IsReadable (scope : Scope) (expr : Expr) : Prop :=
  ∃ fragment, expr.format scope = .ok fragment ∧ fragment.IsReadable

/-- Nothing is written for the expression, or a condition of this truth. -/
def Settles (scope : Scope) (row : Valuation) (expr : Expr) (reading : Option Truth) : Prop :=
  ∃ fragment, expr.format scope = .ok fragment ∧
    match reading with
    | none => fragment.text = ""
    | some truth => fragment.Evaluates row truth

theorem Settles.truth?_eq {expr : Expr} {reading : Option Truth}
    (settles : expr.Settles scope row reading) : expr.truth? scope row = reading := by
  obtain ⟨fragment, formatted, settled⟩ := settles
  have known : expr.truth? scope row = fragment.truth? row := by
    rw [truth?, formatted]
    rfl
  rw [known]
  cases reading with
  | none => exact Fragment.truth?_of_empty settled
  | some truth => exact settled.truth?_eq

theorem IsReadable.settles {expr : Expr} (readable : expr.IsReadable scope) (row : Valuation) :
    expr.Settles scope row (expr.truth? scope row) := by
  obtain ⟨fragment, formatted, nothing | ⟨⟨tree, tells⟩, full⟩⟩ := readable
  · have settles : expr.Settles scope row none := ⟨fragment, formatted, nothing⟩
    rwa [settles.truth?_eq]
  · rw [← placeholders_of_read tells.read] at full
    have settles : expr.Settles scope row (some (tree.truth row fragment.values)) :=
      ⟨fragment, formatted, tree, tells, full, rfl⟩
    rwa [settles.truth?_eq]

/-- Conditions that are put together from tests are readable. -/
theorem isReadable_of_isPredicate {expr : Expr} {fragment : Fragment} (shaped : expr.IsPredicate)
    (closed : expr.IsClosed) (balanced : expr.IsBalanced) (filled : expr.dangling = 0)
    (formatted : expr.format scope = .ok fragment) : expr.IsReadable scope := by
  refine ⟨fragment, formatted, ?_⟩
  obtain ⟨reading, -, tells, -⟩ := (tells_format scope expr shaped closed).exists_of_ok formatted
  cases reading with
  | none => exact .inl tells
  | some tree =>
      have related := related_self FragmentRelation.balance_isReflexive expr balanced
      obtain ⟨_, -, shown⟩ := (matches_format
        (FragmentRelation.balance.agree_self scope) related).exists_of_ok formatted
      have counted := shown.2.count_eq
      rw [filled, Nat.zero_mul] at counted
      exact .inr ⟨⟨tree, tells⟩, counted⟩

/-- Of a list, the items that say something are kept. -/
theorem exists_formatAll {items : List Expr} {readings : List (Option Truth)}
    (settle : List.Forall₂ (fun item reading => item.Settles scope row reading) items readings) :
    ∃ fragments, formatAll scope items = .ok fragments ∧
      List.Forall₂ (Fragment.Evaluates row)
        (fragments.filter fun fragment => !fragment.isEmpty) (readings.filterMap id) := by
  induction settle with
  | nil => exact ⟨[], rfl, .nil⟩
  | @cons item reading _ _ first _ ih =>
      obtain ⟨fragment, formatted, settled⟩ := first
      obtain ⟨fragments, othersFormatted, evaluate⟩ := ih
      refine ⟨fragment :: fragments, ?_, ?_⟩
      · rw [formatAll, formatted, othersFormatted]
        rfl
      · cases reading with
        | none =>
            have empty : fragment.isEmpty = true := Fragment.isEmpty_iff.2 settled
            rw [List.filter_cons, empty]
            exact evaluate
        | some truth =>
            obtain ⟨tree, tells, _⟩ := settled
            rw [List.filter_cons, if_pos (Fragment.not_isEmpty_iff.2 tells.ne_empty)]
            exact .cons ⟨tree, tells, ‹_›⟩ evaluate

end Expr

/-- The ways in which a condition stands within NOTs, ANDs and ORs. -/
inductive Surrounding
  | here
  | not (inner : Surrounding)
  | group (connective : Junction) (before : List Expr) (inner : Surrounding) (after : List Expr)
  | junction (connective : Junction) (before : List Expr) (inner : Surrounding) (after : List Expr)
  /-- As the only operand of an AND or OR, and not in a list. -/
  | alone (connective : Junction) (inner : Surrounding)

namespace Surrounding

/-- The expression with the condition in its place. -/
def fill (test : Condition) : Surrounding → Expr
  | here => .condition test
  | not inner => .condition (.not (inner.fill test))
  | group connective before inner after =>
      .group connective (before ++ inner.fill test :: after)
  | junction connective before inner after =>
      .condition (.junction connective (.list (before ++ inner.fill test :: after)))
  | alone connective inner => .condition (.junction connective (inner.fill test))

/-- What stands beside the place of the condition can be read. -/
def IsReadable (scope : Scope) : Surrounding → Prop
  | here => True
  | not inner | alone _ inner => inner.IsReadable scope
  | group _ before inner after | junction _ before inner after =>
      (∀ item ∈ before, item.IsReadable scope) ∧ inner.IsReadable scope ∧
        ∀ item ∈ after, item.IsReadable scope

/-- The truth of the whole, given that of the condition. -/
def truth (scope : Scope) (row : Valuation) (given : Truth) : Surrounding → Truth
  | here => given
  | not inner => (inner.truth scope row given).not
  | group connective before inner after | junction connective before inner after =>
      connective.truth (before.filterMap (Expr.truth? scope row) ++
        inner.truth scope row given :: after.filterMap (Expr.truth? scope row))
  | alone _ inner => inner.truth scope row given

/-- The number of NOTs around the place of the condition. -/
def negations : Surrounding → Nat
  | here => 0
  | not inner => inner.negations + 1
  | group _ _ inner _ | junction _ _ inner _ | alone _ inner => inner.negations

theorem isList_fill (test : Condition) (around : Surrounding) :
    (around.fill test).isList = false := by
  cases around <;> rfl

/-- A condition among others that can be read. -/
theorem exists_combined {before after : List Expr} {middle : Expr} {given : Truth}
    (beforeReadable : ∀ item ∈ before, item.IsReadable scope)
    (settles : middle.Settles scope row (some given))
    (afterReadable : ∀ item ∈ after, item.IsReadable scope) (connective : Junction) :
    ∃ fragments, Expr.formatAll scope (before ++ middle :: after) = .ok fragments ∧
      (connective.combine fragments).Evaluates row
        (connective.truth (before.filterMap (Expr.truth? scope row) ++
          given :: after.filterMap (Expr.truth? scope row))) := by
  have beside {items : List Expr} (readable : ∀ item ∈ items, item.IsReadable scope) :
      List.Forall₂ (fun item reading => item.Settles scope row reading) items
        (items.map (Expr.truth? scope row)) :=
    List.forall₂_map_right_iff.2
      (List.forall₂_same.2 fun item member => (readable item member).settles row)
  obtain ⟨fragments, formatted, evaluate⟩ := Expr.exists_formatAll
    (List.rel_append (beside beforeReadable) (.cons settles (beside afterReadable)))
  refine ⟨fragments, formatted, ?_⟩
  have kept : (before.map (Expr.truth? scope row) ++
        some given :: after.map (Expr.truth? scope row)).filterMap id =
      before.filterMap (Expr.truth? scope row) ++
        given :: after.filterMap (Expr.truth? scope row) := by
    simp [List.filterMap_map]
  rw [← kept]
  exact .combine connective evaluate (by simp)

/-- The truth of the whole follows from that of the condition and of what stands beside it. -/
theorem settles_fill {test : Condition} {given : Truth}
    (settles : (Expr.condition test).Settles scope row (some given)) :
    ∀ around : Surrounding, around.IsReadable scope →
      (around.fill test).Settles scope row (some (around.truth scope row given))
  | here, _ => settles
  | not inner, readable => by
      obtain ⟨fragment, formatted, evaluates⟩ := settles_fill settles inner readable
      refine ⟨leadingKeyword .not ++ fragment, ?_, evaluates.not⟩
      simp only [fill, Expr.format, Condition.format, formatted]
      rfl
  | group connective before inner after, ⟨beforeReadable, readable, afterReadable⟩ => by
      obtain ⟨fragments, formatted, evaluates⟩ := exists_combined beforeReadable
        (settles_fill settles inner readable) afterReadable connective
      refine ⟨connective.combine fragments, ?_, evaluates⟩
      simp only [fill, Expr.format, formatted]
      rfl
  | junction connective before inner after, ⟨beforeReadable, readable, afterReadable⟩ => by
      obtain ⟨fragments, formatted, evaluates⟩ := exists_combined beforeReadable
        (settles_fill settles inner readable) afterReadable connective
      refine ⟨connective.combine fragments, ?_, evaluates⟩
      simp only [fill, Expr.format, Condition.format_junction_list, formatted]
      rfl
  | alone connective inner, readable => by
      obtain ⟨fragment, formatted, evaluates⟩ := settles_fill settles inner readable
      refine ⟨connective.combine [fragment], ?_, ?_⟩
      · simp only [fill, Expr.format,
          Condition.format_junction_of_single (isList_fill test inner), formatted]
        rfl
      · rwa [Fragment.combine_singleton connective evaluates.ne_empty]

/-- Below an even number of NOTs, a condition that is unknown selects the rows that one that fails
does.  Below an odd number, it excludes them. -/
theorem truth_unknown_iff (scope : Scope) (row : Valuation) : ∀ around : Surrounding,
    (Even around.negations →
        (around.truth scope row .unknown = .holds ↔ around.truth scope row .fails = .holds)) ∧
      (¬Even around.negations →
        (around.truth scope row .unknown = .fails ↔ around.truth scope row .fails = .fails))
  | here => ⟨fun _ => by simp [truth], fun unpaired => absurd Even.zero unpaired⟩
  | not inner => by
      obtain ⟨even, odd⟩ := truth_unknown_iff scope row inner
      simp only [negations, truth, Nat.even_add_one, not_not, Truth.not_eq_holds,
        Truth.not_eq_fails]
      exact ⟨odd, even⟩
  | group connective _ inner _ | junction connective _ inner _ => by
      obtain ⟨even, odd⟩ := truth_unknown_iff scope row inner
      exact ⟨fun paired => connective.truth_eq_iff (by decide) (even paired) _ _,
        fun unpaired => connective.truth_eq_iff (by decide) (odd unpaired) _ _⟩
  | alone _ inner => truth_unknown_iff scope row inner

end Surrounding

section Membership

variable {target : Target} {name : Fragment} {choices values : List Json} {set : Expr}

theorem text_operandSet (given : values ≠ []) :
    (operandSet (values.map .bound)).text = placeholderSet values.length := by
  have shown : ∀ part ∈ values.map Fragment.bound, part.text ≠ "" := by
    simp [Fragment.bound]
  have marks : (values.map Fragment.bound).map Fragment.text =
      List.replicate values.length "?" := by
    simp [Fragment.bound, Function.comp_def]
  rw [operandSet, List.isEmpty_map, List.isEmpty_eq_false_iff.2 given]
  simp only [Bool.false_eq_true, if_false, Fragment.joined_eq_intercalate shown]
  simp [Fragment.parenthesized, Fragment.text_intercalate, marks, placeholderSet]

theorem values_operandSet (given : values ≠ []) :
    (operandSet (values.map .bound)).values = values := by
  have shown : ∀ part ∈ values.map Fragment.bound, part.text ≠ "" := by
    simp [Fragment.bound]
  rw [operandSet, List.isEmpty_map, List.isEmpty_eq_false_iff.2 given]
  simp [Fragment.parenthesized, Fragment.values_joined ", " shown, Fragment.bound, List.flatMap_map]

theorem count_operandSet (given : values ≠ []) :
    count (operandSet (values.map .bound)).text = values.length := by
  have paired : List.Forall₂ FragmentRelation.balance.datum values values :=
    List.forall₂_same.2 fun _ _ => rfl
  have balanced := FragmentRelation.operandSet (FragmentRelation.all_bound paired)
  rw [balanced.2.count_eq, values_operandSet given]
  rfl

theorem isSingleAtom_placeholderSet (size : Nat) : IsSingleAtom (placeholderSet size) := by
  refine Closed.isSingleAtom (.intercalate (.of_isSafe (by decide)) fun text member => ?_)
  rw [List.eq_of_mem_replicate member]
  exact .of_isSafe (by decide)

/-- A column is in a list of values if it equals one of them. -/
theorem Fragment.evaluates_isIn (row : Valuation) (column : target.IsColumn)
    (named : target.format scope = .ok name) (given : values ≠ []) :
    (name ++ infixKeyword .isIn ++ operandSet (values.map .bound)).Evaluates row
      (row.isIn (row.column name.text) values) := by
  have atom : IsSingleAtom name.text := target.isSingleAtom_format scope column name named
  obtain ⟨qualifier, field, rfl⟩ := Target.exists_qualified column named
  have setText := text_operandSet given
  have setAtom : IsSingleAtom (operandSet (values.map .bound)).text := by
    rw [setText]
    exact isSingleAtom_placeholderSet values.length
  have all : (ofText (Ident.qualified qualifier field) ++ infixKeyword .isIn ++
      operandSet (values.map .bound)).values = values := by
    simp [infixKeyword, values_operandSet given]
  refine ⟨_, tells_isIn atom setAtom, ?_, ?_⟩
  · have silent : count (Ident.qualified qualifier field) = 0 :=
      (Ident.isQuiet_qualified qualifier field).2
    rw [all]
    simp [placeholders, Test.placeholders, Test.texts, total, silent, count_operandSet given]
  · rw [all, truth, Valuation.test, if_pos setText]

theorem operandSet_nil : operandSet [] = operandSet ([.null].map .bound) := by
  have alone : Fragment.joined ", " [.bound .null] = .bound .null :=
    Fragment.joined_singleton _ _ (by decide)
  simp [operandSet, alone]

theorem Condition.settles_isIn (row : Valuation) (column : target.IsColumn)
    (named : target.format scope = .ok name)
    (listed : set = .ofValues choices ∨ set = .value (.array choices)) :
    (Expr.condition (.isIn target set)).Settles scope row
      (some (row.isIn (row.column name.text) (if choices = [] then [.null] else choices))) := by
  have formatted : (Expr.condition (.isIn target set)).format scope =
      .ok (name ++ infixKeyword .isIn ++ operandSet (choices.map .bound)) := by
    rcases listed with rfl | rfl
    · simp only [Expr.format, Expr.ofValues, format_isIn_list, named, Expr.formatAll_map_value]
      rfl
    · simp only [Expr.format, format_isIn_array, named]
      rfl
  refine ⟨_, formatted, ?_⟩
  by_cases nothing : choices = []
  · rw [if_pos nothing, nothing, List.map_nil, operandSet_nil]
    exact Fragment.evaluates_isIn row column named (List.cons_ne_nil _ _)
  · rw [if_neg nothing]
    exact Fragment.evaluates_isIn row column named nothing

end Membership

namespace Sample

/-- A row of twos, in which every other test fails. -/
def twos : Valuation where
  column _ := .integer 2
  same first second := first.integer? == second.integer?
  other _ _ := .fails

/-- Accounts without a note. -/
def unnoted : Expr := .condition (.nullTest false (.name "note"))

theorem format_unnoted : unnoted.format accounts =
    .ok (.ofText "account.\"note?\"" ++ .ofText (" " ++ (Operator.nullTest false).keyword)) :=
  rfl

theorem settles_unnoted : unnoted.Settles accounts twos (some .fails) := by
  have column : (Target.name "note").IsColumn := trivial
  have named : (Target.name "note").format accounts = .ok (.ofText "account.\"note?\"") := rfl
  have atom := (Target.name "note").isSingleAtom_format accounts column _ named
  exact ⟨_, format_unnoted, _, tells_nullTest false atom, by decide, rfl⟩

end Sample

/-- Within NOTs, ANDs and ORs, what is written for a membership test has the truth of its outcome,
but for a list without items it is unknown.  So the outcome is kept everywhere exactly if there are
items; as far as rows are selected, it is kept below an even number of NOTs. -/
theorem Condition.membership_within (scope : Scope) (row : Valuation) {target : Target}
    (column : target.IsColumn) {name : Fragment} (named : target.format scope = .ok name)
    (known : row.column name.text ≠ .null) {choices : List Json}
    (given : ∀ choice ∈ choices, choice ≠ .null) {set : Expr}
    (listed : set = .ofValues choices ∨ set = .value (.array choices)) :
    let test := isIn target set
    let outcome := Truth.ofBool (choices.any (row.same (row.column name.text)))
    (∀ around : Surrounding, around.IsReadable scope →
        (around.fill test).truth? scope row =
            some (around.truth scope row (if choices = [] then .unknown else outcome)) ∧
          (Even around.negations →
            ((around.fill test).truth? scope row = some .holds ↔
              around.truth scope row outcome = .holds))) ∧
      ((∀ around : Surrounding, around.IsReadable scope →
          (around.fill test).truth? scope row = some (around.truth scope row outcome)) ↔
        choices ≠ []) := by
  intro test outcome
  have value : row.isIn (row.column name.text) (if choices = [] then [.null] else choices) =
      if choices = [] then .unknown else outcome := by
    split
    · exact row.isIn_null _
    · exact row.isIn_of_known known given
  have whole (around : Surrounding) (readable : around.IsReadable scope) :
      (around.fill test).truth? scope row =
        some (around.truth scope row (if choices = [] then .unknown else outcome)) := by
    have settles := settles_isIn row column named listed
    rw [value] at settles
    exact (around.settles_fill settles readable).truth?_eq
  refine ⟨fun around readable => ⟨whole around readable, fun paired => ?_⟩, fun kept => ?_,
    fun items around readable => ?_⟩
  · rw [whole around readable, Option.some_inj]
    split
    case isTrue nothing =>
        have failed : outcome = .fails := by simp [outcome, nothing, Truth.ofBool]
        rw [failed]
        exact (around.truth_unknown_iff scope row).1 paired
    case isFalse => exact Iff.rfl
  · -- Alone, the test has its own truth.
    rintro rfl
    have alone := (whole .here trivial).symm.trans (kept .here trivial)
    simp [Surrounding.truth, outcome, Truth.ofBool] at alone
  · rw [whole around readable, if_neg items]

/-- Negated, and beside another test. -/
theorem Condition.membership_within_negation :
    (Surrounding.fill (.isIn (.name "id") (.ofValues [.integer 1, .integer 2]))
      (.group .or [Sample.unnoted] (.not .here) [])).truth? Sample.accounts Sample.twos =
        some .fails := by
  have column : (Target.name "id").IsColumn := trivial
  have named : (Target.name "id").format Sample.accounts = .ok (.ofText "account.id") := rfl
  have given : ∀ choice ∈ [Json.integer 1, .integer 2], choice ≠ .null := by simp
  have readable : Sample.unnoted.IsReadable Sample.accounts :=
    Expr.isReadable_of_isPredicate trivial trivial trivial rfl Sample.format_unnoted
  obtain ⟨everywhere, -⟩ :=
    Condition.membership_within Sample.accounts Sample.twos column named nofun given (.inl rfl)
  obtain ⟨whole, -⟩ := everywhere (.group .or [Sample.unnoted] (.not .here) [])
    ⟨by simpa using readable, trivial, by simp⟩
  rw [whole]
  have beside : [Sample.unnoted].filterMap (Expr.truth? Sample.accounts Sample.twos) =
      [.fails] := by
    rw [List.filterMap_cons_some Sample.settles_unnoted.truth?_eq, List.filterMap_nil]
  rw [Surrounding.truth, beside]
  rfl

/-- A number is not known to be outside of no choices. -/
theorem Condition.membership_unknown_of_none : ∃ fragment,
    (Expr.condition (.not (.condition (.isIn (.name "id") (.ofValues []))))).format
        Sample.accounts = .ok fragment ∧
      fragment.text = "NOT account.id IN (?)" ∧ fragment.values = [.null] ∧
        Sample.twos.column "account.id" ≠ .null ∧
          fragment.truth? Sample.twos = some .unknown := by
  have named : (Target.name "id").format Sample.accounts = .ok (.ofText "account.id") := rfl
  have column : (Target.name "id").IsColumn := trivial
  have written : (Expr.condition (.not (.condition (.isIn (.name "id") (.ofValues []))))).format
      Sample.accounts = .ok ⟨"NOT account.id IN (?)", [.null]⟩ := rfl
  have settles : (Expr.condition (.isIn (.name "id") (.ofValues []))).Settles Sample.accounts
      Sample.twos (some (Sample.twos.isIn (.integer 2) [.null])) :=
    Condition.settles_isIn Sample.twos column named (.inl rfl)
  rw [Valuation.isIn_null] at settles
  obtain ⟨fragment, formatted, evaluates⟩ :=
    Surrounding.settles_fill settles (.not .here) trivial
  obtain rfl := Except.ok.inj (formatted.symm.trans written)
  exact ⟨_, written, rfl, rfl, nofun, evaluates.truth?_eq⟩

end EntityQuery

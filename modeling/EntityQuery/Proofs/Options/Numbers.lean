import EntityQuery.Options.Reader
import EntityQuery.Proofs.Number.Truncation

/-!
# The counts that values stand for

A count is given as a JSON number or as a numeral in text.  What is read is that number without its
fraction, except that floating numbers from 2 ^ 64 on are read as the greatest count.
-/

namespace EntityQuery

namespace Json

/-- The number that a value stands for: a JSON number, or a numeral as text. -/
def number? : Json → Option ℚ
  | .integer number => some number
  | .real number => some number.value
  | .string text => Numeral.number? (Text.trim text)
  | _ => none

/-- The value is a floating number beyond all counts. -/
def ExceedsCounts (value : Json) : Prop := ∃ number, value = .real number ∧ 2 ^ 64 ≤ number.value

/-- The value is a number rather than a text. -/
def IsNumber : Json → Prop
  | .integer _ | .real _ => True
  | _ => False

/-- The count that a value stands for. -/
inductive Counts (value : Json) : ℕ → Prop
  | whole {number : ℚ} {count : ℕ} : ¬value.ExceedsCounts → value.number? = some number →
      truncated number = count → Counts value count
  | greatest : value.ExceedsCounts → Counts value (2 ^ 64 - 1)

end Json

namespace CountOption

variable {option : CountOption} {value : Json} {count : ℕ} {number : ℚ}

theorem greatest_lt_iff {number : ℕ} : greatest < number ↔ 2 ^ 64 ≤ number := by
  unfold greatest
  rw [Nat.pow_eq]
  omega

theorem greatest_lt_wholePart_iff {real : Binary64} (nonneg : 0 ≤ real.value) :
    greatest < real.wholePart ↔ 2 ^ 64 ≤ real.value := by
  rw [greatest_lt_iff, Binary64.le_wholePart_iff nonneg, Nat.cast_pow, Nat.cast_ofNat]

theorem count?_real (real : Binary64) :
    count? (.real real) = if real.value < 0 then none else some (min real.wholePart greatest) := by
  rw [count?]
  exact if_congr real.value_neg_iff.symm rfl rfl

theorem count?_of_exceeding (exceeds : value.ExceedsCounts) : count? value = some greatest := by
  obtain ⟨real, rfl, exceeds⟩ := exceeds
  have nonneg : 0 ≤ real.value := le_trans (by positivity) exceeds
  have above : greatest < real.wholePart := (greatest_lt_wholePart_iff nonneg).2 exceeds
  rw [count?_real, if_neg (not_lt.2 nonneg), Nat.min_eq_right (Nat.le_of_lt above)]

/-- A value is read as the number that it stands for, without its fraction. -/
theorem truncated_of_count? (within : ¬value.ExceedsCounts) (counted : count? value = some count) :
    ∃ number, value.number? = some number ∧ truncated number = count ∧ count ≤ greatest := by
  cases value with
  | integer number =>
      rw [count?, Option.ite_none_right_eq_some, Option.some_inj] at counted
      obtain ⟨⟨nonneg, bounded⟩, rfl⟩ := counted
      refine ⟨number, rfl, ?_, Int.toNat_le.2 bounded⟩
      rw [truncated_intCast, Int.toNat_of_nonneg nonneg]
  | real real =>
      rw [count?_real, Option.ite_none_left_eq_some, not_lt, Option.some_inj] at counted
      obtain ⟨nonneg, rfl⟩ := counted
      have bounded : real.wholePart ≤ greatest := Nat.le_of_not_lt fun above =>
        within ⟨real, rfl, (greatest_lt_wholePart_iff nonneg).1 above⟩
      rw [Nat.min_eq_left bounded]
      exact ⟨real.value, rfl, Binary64.truncated_value nonneg, bounded⟩
  | string text =>
      rw [count?, Numeral.unsignedWithin?, Option.filter_eq_some_iff] at counted
      obtain ⟨read, bounded⟩ := counted
      have stands : (Json.string text).number? = some (count : ℚ) := by
        rw [Json.number?, Numeral.number?_of_unsigned? read]
      refine ⟨count, stands, truncated_natCast count, ?_⟩
      exact Nat.le_of_not_lt fun beyond =>
        absurd (greatest_lt_iff.1 beyond) (Nat.not_le.2 (of_decide_eq_true bounded))
  | _ => contradiction

theorem counts_of_count? (counted : count? value = some count) : value.Counts count := by
  by_cases exceeds : value.ExceedsCounts
  · obtain rfl := Option.some.inj ((count?_of_exceeding exceeds).symm.trans counted)
    exact .greatest exceeds
  · obtain ⟨number, stands, whole, -⟩ := truncated_of_count? exceeds counted
    exact .whole exceeds stands whole

theorem count?_of_isNumber (isNumber : value.IsNumber) (stands : value.number? = some number)
    (within : number < 2 ^ 64) :
    (count? value).isSome = true ↔ 0 ≤ number := by
  cases value with
  | integer given =>
      obtain rfl := Option.some.inj stands
      have below : given < 2 ^ 64 := by exact_mod_cast within
      have bounded : given ≤ greatest := by
        unfold greatest
        rw [Nat.pow_eq]
        omega
      rw [count?, Option.isSome_ite, Int.cast_nonneg_iff, and_iff_left bounded]
  | real given =>
      obtain rfl := Option.some.inj stands
      rw [count?_real, ← not_lt]
      split
      case isTrue negative => exact iff_of_false nofun (not_not.2 negative)
      case isFalse nonneg => exact iff_of_true rfl nonneg
  | _ => contradiction

theorem read_eq_ok : option.read value = .ok count ↔
    count? value = some count ∧ (option = .batchSize → count ≠ 0) := by
  unfold read
  cases count? value with
  | none => exact iff_of_false nofun fun counted => nomatch counted.1
  | some found =>
      dsimp only
      rw [Option.some_inj]
      split
      case isTrue refused =>
          refine iff_of_false nofun ?_
          rintro ⟨rfl, positive⟩
          exact positive refused.1 refused.2
      case isFalse accepted =>
          rw [Except.ok.injEq, iff_self_and]
          rintro rfl batch zero
          exact accepted ⟨batch, zero⟩

end CountOption

end EntityQuery

import EntityQuery.Number.Numeral
import Mathlib.Algebra.Order.Field.Power
import Mathlib.Data.List.TakeWhile
import Mathlib.Data.Rat.Floor
import Mathlib.Tactic.Positivity

/-!
# The numbers that are written

Binary numbers and numerals stand for rational numbers.  A binary number is a significand times a
power of two, and a numeral is its digits times a power of ten, each with a sign.  Dropping the
fraction of a number rounds it toward zero.
-/

namespace EntityQuery

/-- The number without its fraction. -/
def truncated (number : ℚ) : ℤ := if 0 ≤ number then ⌊number⌋ else ⌈number⌉

theorem truncated_of_nonneg {number : ℚ} (nonneg : 0 ≤ number) : truncated number = ⌊number⌋ :=
  if_pos nonneg

@[simp]
theorem truncated_intCast (number : ℤ) : truncated number = number := by
  unfold truncated
  rw [Int.floor_intCast, Int.ceil_intCast, ite_self]

@[simp]
theorem truncated_natCast (number : ℕ) : truncated number = number :=
  truncated_intCast number

/-- A power as a quotient of two powers, one of which is one. -/
theorem zpow_eq_div {base : ℚ} (nonzero : base ≠ 0) (exponent : ℤ) :
    base ^ exponent = base ^ exponent.toNat / base ^ (-exponent).toNat := by
  conv_lhs => rw [← exponent.toNat_sub_toNat_neg]
  rw [zpow_sub₀ nonzero, zpow_natCast, zpow_natCast]

namespace BinaryFormat

variable (format : BinaryFormat) (magnitude : ℕ)

/-- The number with a magnitude. -/
def value : ℚ := format.significand magnitude * 2 ^ format.exponent magnitude

theorem value_eq_div :
    format.value magnitude = format.numerator magnitude / format.denominator magnitude := by
  unfold value numerator denominator
  rw [zpow_eq_div two_ne_zero, Nat.pow_eq, Nat.pow_eq]
  push_cast
  rw [mul_div_assoc]

theorem value_nonneg : 0 ≤ format.value magnitude := by
  unfold value
  positivity

theorem significand_eq_zero_iff : format.significand magnitude = 0 ↔ magnitude = 0 := by
  have places : 0 < Nat.pow 2 format.fractionBits := Nat.two_pow_pos _
  unfold significand
  dsimp only
  split
  case isTrue small =>
      rw [Nat.mod_eq_of_lt ((Nat.div_eq_zero_iff_lt places).1 small)]
  case isFalse large =>
      refine iff_of_false (by omega) fun zero => large ?_
      rw [zero, Nat.zero_div]

theorem value_eq_zero_iff : format.value magnitude = 0 ↔ magnitude = 0 := by
  have power : (2 : ℚ) ^ format.exponent magnitude ≠ 0 := by positivity
  unfold value
  rw [mul_eq_zero, or_iff_left power, Nat.cast_eq_zero, significand_eq_zero_iff]

end BinaryFormat

namespace Binary64

/-- The number as a rational one. -/
def value (number : Binary64) : ℚ :=
  if number.negative then -BinaryFormat.binary64.value number.magnitude
  else BinaryFormat.binary64.value number.magnitude

theorem value_neg_iff (number : Binary64) :
    number.value < 0 ↔ number.negative = true ∧ number.magnitude ≠ 0 := by
  have nonneg := BinaryFormat.binary64.value_nonneg number.magnitude
  unfold value
  cases number.negative with
  | false => simpa using nonneg
  | true =>
      rw [if_pos rfl, neg_lt_zero, and_iff_right rfl, Ne,
        ← BinaryFormat.binary64.value_eq_zero_iff, ← Ne, ← nonneg.lt_iff_ne']

/-- A number that is not negative is its size, also where it is a negative zero. -/
theorem value_eq_of_nonneg {number : Binary64} (nonneg : 0 ≤ number.value) :
    number.value = BinaryFormat.binary64.value number.magnitude := by
  have size := BinaryFormat.binary64.value_nonneg number.magnitude
  unfold value at nonneg ⊢
  split at nonneg
  case isTrue negative =>
      rw [if_pos negative]
      linarith
  case isFalse positive => rw [if_neg positive]

theorem truncated_value {number : Binary64} (nonneg : 0 ≤ number.value) :
    truncated number.value = number.wholePart := by
  rw [truncated_of_nonneg nonneg, value_eq_of_nonneg nonneg, BinaryFormat.value_eq_div]
  exact Rat.floor_natCast_div_natCast _ _

theorem le_wholePart_iff {number : Binary64} (nonneg : 0 ≤ number.value) {bound : ℕ} :
    bound ≤ number.wholePart ↔ (bound : ℚ) ≤ number.value := by
  rw [← Int.ofNat_le, ← truncated_value nonneg, truncated_of_nonneg nonneg, Int.le_floor,
    Int.cast_natCast]

end Binary64

/-- The number that a decimal stands for. -/
def Decimal.value (decimal : Decimal) : ℚ := decimal.digits * 10 ^ decimal.exponent

namespace Numeral

/-- The number that a text writes as a decimal numeral, with or without a sign. -/
def number? (text : String) : Option ℚ :=
  let (negative, rest) := splitSign text.toList
  (decimal? rest).map fun decimal => if negative then -decimal.value else decimal.value

variable {chars : List Char} {number : ℕ}

theorem digits_of_natural? (read : natural? chars = some number) :
    chars ≠ [] ∧ (∀ char ∈ chars, char.isDigit = true) ∧ value chars = number := by
  unfold natural? at read
  split at read
  case isTrue digits =>
      rw [Bool.and_eq_true, Bool.not_eq_true', List.all_eq_true] at digits
      exact ⟨List.isEmpty_eq_false_iff.1 digits.1, digits.2, Option.some.inj read⟩
  case isFalse => contradiction

/-- The digits in front of a text that does not start with one. -/
theorem span_digits {digits : List Char} (all : ∀ char ∈ digits, char.isDigit = true)
    (rest : List Char) (ends : ∀ char ∈ rest.head?, char.isDigit = false) :
    (digits ++ rest).span Char.isDigit = (digits, rest) := by
  rw [List.span_eq_takeWhile_dropWhile, List.takeWhile_append_of_pos all,
    List.dropWhile_append_of_pos all]
  cases rest with
  | nil => rw [List.takeWhile_nil, List.dropWhile_nil, List.append_nil]
  | cons first others =>
      have other : ¬first.isDigit = true := Bool.eq_false_iff.1 (ends first rfl)
      rw [List.takeWhile_cons_of_neg other, List.dropWhile_cons_of_neg other, List.append_nil]

theorem parts?_digits {digits : List Char} (all : ∀ char ∈ digits, char.isDigit = true) :
    parts? digits = some ⟨digits, none, none⟩ := by
  have split := span_digits all [] nofun
  rw [List.append_nil] at split
  unfold parts?
  rw [split]

/-- Digits alone are a decimal number without a point. -/
theorem decimal?_of_natural? (read : natural? chars = some number) :
    decimal? chars = some ⟨number, 0⟩ := by
  obtain ⟨filled, digits, rfl⟩ := digits_of_natural? read
  have nonempty : chars.isEmpty = false := List.isEmpty_eq_false_iff.2 filled
  unfold decimal?
  rw [parts?_digits digits, Option.bind_some, nonempty]
  simp [Parts.decimal]

theorem splitSign_of_natural? (read : natural? chars = some number) :
    splitSign chars = (false, chars) := by
  obtain ⟨-, digits, -⟩ := digits_of_natural? read
  unfold splitSign
  split
  · exact absurd (digits '-' List.mem_cons_self) (by decide)
  · exact absurd (digits '+' List.mem_cons_self) (by decide)
  · rfl

theorem number?_of_unsigned? {text : String} (read : unsigned? text = some number) :
    number? text = some (number : ℚ) := by
  have signed : ∃ digits, splitSign text.toList = (false, digits) ∧
      natural? digits = some number := by
    unfold unsigned? at read
    split at read
    · next digits written => exact ⟨digits, by rw [written]; rfl, read⟩
    · exact ⟨text.toList, splitSign_of_natural? read, read⟩
  obtain ⟨digits, split, natural⟩ := signed
  unfold number?
  rw [split]
  dsimp only
  rw [decimal?_of_natural? natural]
  simp [Decimal.value]

end Numeral

end EntityQuery

import EntityQuery.Proofs.Number.Truncation
import Mathlib.Data.Int.Log
import Mathlib.Tactic.FieldSimp
import Mathlib.Tactic.Ring

/-!
# Rounding to the nearest binary number

The binary number nearest to a quotient depends on nothing but the value of the quotient, and a
binary number is the nearest to its own value.  So a decimal that is changed without changing its
value reads as the same number, and the shortest decimal of a number reads as that number.
-/

namespace EntityQuery

theorem roundedQuotient_mul_left {factor : ℕ} (positive : 0 < factor)
    (numerator denominator : ℕ) :
    roundedQuotient (factor * numerator) (factor * denominator) =
      roundedQuotient numerator denominator := by
  have doubled (number : ℕ) : 2 * (factor * number) = factor * (2 * number) :=
    Nat.mul_left_comm _ _ _
  unfold roundedQuotient
  rw [Nat.mul_div_mul_left _ _ positive, Nat.mul_mod_mul_left]
  simp only [doubled, Nat.mul_lt_mul_left positive]

/-- A rounded quotient depends on the value of the quotient only. -/
theorem roundedQuotient_congr {numerator denominator other divisor : ℕ}
    (positive : 0 < denominator) (positiveOther : 0 < divisor)
    (same : numerator * divisor = other * denominator) :
    roundedQuotient numerator denominator = roundedQuotient other divisor := by
  rw [← roundedQuotient_mul_left positiveOther, ← roundedQuotient_mul_left positive other,
    Nat.mul_comm divisor numerator, same, Nat.mul_comm other, Nat.mul_comm divisor]

theorem two_zpow_le_div_iff {numerator denominator : ℕ} (positive : 0 < denominator)
    (exponent : ℤ) :
    (2 : ℚ) ^ exponent ≤ numerator / denominator ↔
      denominator * 2 ^ exponent.toNat ≤ numerator * 2 ^ (-exponent).toNat := by
  have divisor : (0 : ℚ) < denominator := Nat.cast_pos.2 positive
  rw [zpow_eq_div two_ne_zero, div_le_div_iff₀ (by positivity) divisor, mul_comm]
  exact_mod_cast Iff.rfl

namespace BinaryFormat

variable {format : BinaryFormat} {numerator denominator : ℕ}

/-- The place of the leading bit of a quotient: one of the two places that the places of the leading
bits of the parts allow. -/
theorem leading_eq_log (filled : numerator ≠ 0) (positive : 0 < denominator) :
    (if denominator * 2 ^ ((numerator.log2 : ℤ) - denominator.log2).toNat ≤
        numerator * 2 ^ (-((numerator.log2 : ℤ) - denominator.log2)).toNat
      then (numerator.log2 : ℤ) - denominator.log2
      else (numerator.log2 : ℤ) - denominator.log2 - 1) =
      Int.log 2 (numerator / denominator : ℚ) := by
  have divisor : (0 : ℚ) < denominator := Nat.cast_pos.2 positive
  have quotient : (0 : ℚ) < numerator / denominator :=
    div_pos (Nat.cast_pos.2 (Nat.pos_of_ne_zero filled)) divisor
  have reached (place : ℤ) : (2 : ℚ) ^ place ≤ numerator / denominator ↔ _ :=
    Int.zpow_le_iff_le_log one_lt_two quotient
  have unreached (place : ℤ) : (numerator / denominator : ℚ) < 2 ^ place ↔ _ :=
    Int.lt_zpow_iff_log_lt one_lt_two quotient
  simp only [← two_zpow_le_div_iff positive]
  generalize upper : (numerator.log2 : ℤ) = top
  generalize lower : (denominator.log2 : ℤ) = bottom
  have low : (2 : ℚ) ^ top ≤ numerator := by
    rw [← upper, zpow_natCast]
    exact_mod_cast Nat.log2_self_le filled
  have high : (numerator : ℚ) < 2 ^ (top + 1) := by
    rw [← upper, ← Nat.cast_succ, zpow_natCast]
    exact_mod_cast Nat.lt_log2_self
  have lowDivisor : (2 : ℚ) ^ bottom ≤ denominator := by
    rw [← lower, zpow_natCast]
    exact_mod_cast Nat.log2_self_le (Nat.ne_of_gt positive)
  have highDivisor : (denominator : ℚ) < 2 ^ (bottom + 1) := by
    rw [← lower, ← Nat.cast_succ, zpow_natCast]
    exact_mod_cast Nat.lt_log2_self
  have below : (numerator / denominator : ℚ) < 2 ^ (top - bottom + 1) := by
    rw [div_lt_iff₀ divisor]
    calc (numerator : ℚ) < 2 ^ (top + 1) := high
      _ = 2 ^ (top - bottom + 1) * 2 ^ bottom := by
        rw [← zpow_add₀ two_ne_zero]
        ring_nf
      _ ≤ 2 ^ (top - bottom + 1) * denominator := by gcongr
  have above : (2 : ℚ) ^ (top - bottom - 1) ≤ numerator / denominator := by
    rw [le_div_iff₀ divisor]
    calc (2 : ℚ) ^ (top - bottom - 1) * denominator
        ≤ 2 ^ (top - bottom - 1) * 2 ^ (bottom + 1) := by gcongr
      _ = 2 ^ top := by
        rw [← zpow_add₀ two_ne_zero]
        ring_nf
      _ ≤ numerator := low
  have least := (reached _).1 above
  have most := (unreached _).1 below
  split_ifs with met
  · have exact := (reached _).1 met
    omega
  · have exact := (unreached _).1 (lt_of_not_ge met)
    omega

/-- A quotient rounded to a format, given the place of its leading bit. -/
def rounded (format : BinaryFormat) (leading : ℤ) (numerator denominator : ℕ) : ℕ :=
  let place := max (leading - format.fractionBits) format.minExponent
  min format.infinity ((place - format.minExponent).toNat * 2 ^ format.fractionBits +
    roundedQuotient (numerator * 2 ^ (-place).toNat) (denominator * 2 ^ place.toNat))

theorem nearest_eq_rounded (filled : numerator ≠ 0) (positive : 0 < denominator) :
    format.nearest numerator denominator =
      format.rounded (Int.log 2 (numerator / denominator : ℚ)) numerator denominator := by
  rw [← leading_eq_log filled positive]
  unfold nearest
  rw [if_neg filled]
  rfl

/-- The nearest number to a quotient depends on the value of the quotient only. -/
theorem nearest_congr {other divisor : ℕ} (positive : 0 < denominator)
    (positiveOther : 0 < divisor) (same : (numerator / denominator : ℚ) = other / divisor) :
    format.nearest numerator denominator = format.nearest other divisor := by
  have crossed : numerator * divisor = other * denominator := by
    rw [div_eq_div_iff (Nat.cast_ne_zero.2 positive.ne') (Nat.cast_ne_zero.2 positiveOther.ne')]
      at same
    exact_mod_cast same
  by_cases empty : numerator = 0
  · have emptyOther : other = 0 := by
      rw [empty, Nat.zero_mul] at crossed
      exact (Nat.mul_eq_zero.1 crossed.symm).resolve_right positive.ne'
    rw [nearest, if_pos empty, nearest, if_pos emptyOther]
  · have filledOther : other ≠ 0 := by
      rintro rfl
      rw [Nat.zero_mul] at crossed
      exact empty ((Nat.mul_eq_zero.1 crossed).resolve_right positiveOther.ne')
    rw [nearest_eq_rounded empty positive, nearest_eq_rounded filledOther positiveOther, same]
    unfold rounded
    dsimp only
    rw [roundedQuotient_congr (Nat.mul_pos positive (Nat.two_pow_pos _))
      (Nat.mul_pos positiveOther (Nat.two_pow_pos _))]
    rw [Nat.mul_mul_mul_comm, crossed, Nat.mul_mul_mul_comm]

theorem denominator_pos (magnitude : ℕ) : 0 < format.denominator magnitude := Nat.two_pow_pos _

theorem significand_pos {magnitude : ℕ} (filled : magnitude ≠ 0) :
    0 < format.significand magnitude :=
  Nat.pos_of_ne_zero fun zero => filled ((format.significand_eq_zero_iff magnitude).1 zero)

/-- The leading bit of a number is the leading bit of its significand, moved by the exponent. -/
theorem log_value {magnitude : ℕ} (filled : magnitude ≠ 0) :
    Int.log 2 (format.numerator magnitude / format.denominator magnitude : ℚ) =
      (format.significand magnitude).log2 + format.exponent magnitude := by
  have positive : 0 < format.significand magnitude := significand_pos filled
  rw [← value_eq_div, value]
  have scaled : (0 : ℚ) < 2 ^ format.exponent magnitude := by positivity
  have size : (0 : ℚ) < format.significand magnitude * 2 ^ format.exponent magnitude :=
    mul_pos (Nat.cast_pos.2 positive) scaled
  have least := (Int.zpow_le_iff_le_log (b := 2) one_lt_two size
    (x := (format.significand magnitude).log2 + format.exponent magnitude)).1 (by
      rw [Nat.cast_ofNat, zpow_add₀ two_ne_zero, zpow_natCast]
      gcongr
      exact_mod_cast Nat.log2_self_le positive.ne')
  have most := (Int.lt_zpow_iff_log_lt (b := 2) one_lt_two size
    (x := ((format.significand magnitude).log2 + 1 : ℕ) + format.exponent magnitude)).1 (by
      rw [Nat.cast_ofNat, zpow_add₀ two_ne_zero, zpow_natCast]
      gcongr
      exact_mod_cast Nat.lt_log2_self)
  omega

/-- The exponent of a number is the place of its last bit, if the leading bit has its full distance
to it, or else the last place of all. -/
theorem exponent_eq_max {magnitude : ℕ} (filled : magnitude ≠ 0) :
    max ((format.significand magnitude).log2 + format.exponent magnitude - format.fractionBits)
      format.minExponent = format.exponent magnitude := by
  have fraction : magnitude % 2 ^ format.fractionBits < 2 ^ format.fractionBits :=
    Nat.mod_lt _ (Nat.two_pow_pos _)
  have positive : 0 < format.significand magnitude := significand_pos filled
  unfold significand exponent at *
  dsimp only [Nat.pow_eq] at *
  split_ifs at * with small
  · have short : (magnitude % 2 ^ format.fractionBits).log2 < format.fractionBits :=
      (Nat.log2_lt positive.ne').2 fraction
    rw [small]
    simp only [Nat.zero_max, Nat.sub_self]
    omega
  · have full : (2 ^ format.fractionBits + magnitude % 2 ^ format.fractionBits).log2 =
        format.fractionBits := by
      rw [Nat.log2_eq_iff positive.ne']
      omega
    rw [full]
    omega

/-- A number is put together again from its exponent and its significand. -/
theorem place_add_significand (magnitude : ℕ) :
    (format.exponent magnitude - format.minExponent).toNat * 2 ^ format.fractionBits +
      format.significand magnitude = magnitude := by
  have parts := Nat.div_add_mod' magnitude (2 ^ format.fractionBits)
  unfold exponent significand
  dsimp only [Nat.pow_eq]
  generalize magnitude / 2 ^ format.fractionBits = quotient at *
  rw [add_sub_cancel_left, Int.toNat_natCast]
  split_ifs with small
  · rw [small] at parts ⊢
    simpa using parts
  · have above : max quotient 1 - 1 + 1 = quotient := by omega
    calc (max quotient 1 - 1) * 2 ^ format.fractionBits +
          (2 ^ format.fractionBits + magnitude % 2 ^ format.fractionBits)
        = (max quotient 1 - 1 + 1) * 2 ^ format.fractionBits +
          magnitude % 2 ^ format.fractionBits := by ring
      _ = magnitude := by rw [above, parts]

theorem roundedQuotient_mul_self (quotient : ℕ) {divisor : ℕ} (positive : 0 < divisor) :
    roundedQuotient (quotient * divisor) divisor = quotient := by
  unfold roundedQuotient
  rw [Nat.mul_div_cancel _ positive, Nat.mul_mod_left]
  exact if_pos positive

/-- A number is the nearest to its own value. -/
theorem nearest_numerator {magnitude : ℕ} (finite : magnitude ≤ format.infinity) :
    format.nearest (format.numerator magnitude) (format.denominator magnitude) = magnitude := by
  by_cases filled : magnitude = 0
  · have empty : format.numerator magnitude = 0 := by
      rw [numerator, (format.significand_eq_zero_iff magnitude).2 filled, Nat.zero_mul]
    rw [nearest, if_pos empty, filled]
  · have positive : 0 < format.significand magnitude := significand_pos filled
    have filledNumerator : format.numerator magnitude ≠ 0 :=
      (Nat.mul_pos positive (Nat.two_pow_pos _)).ne'
    have whole : roundedQuotient
        (format.numerator magnitude * 2 ^ (-format.exponent magnitude).toNat)
        (format.denominator magnitude * 2 ^ (format.exponent magnitude).toNat) =
        format.significand magnitude := by
      rw [numerator, denominator, Nat.pow_eq, Nat.pow_eq, Nat.mul_assoc,
        Nat.mul_comm (2 ^ (-format.exponent magnitude).toNat)]
      exact roundedQuotient_mul_self _ (Nat.mul_pos (Nat.two_pow_pos _) (Nat.two_pow_pos _))
    rw [nearest_eq_rounded filledNumerator (denominator_pos magnitude), log_value filled, rounded,
      exponent_eq_max filled, whole, place_add_significand]
    exact Nat.min_eq_right finite

/-- A quotient whose leading bit is high enough is rounded to infinity. -/
theorem nearest_of_large (filled : numerator ≠ 0) (positive : 0 < denominator)
    (large : format.infinity ≤ (Int.log 2 (numerator / denominator : ℚ) - format.fractionBits -
      format.minExponent).toNat * 2 ^ format.fractionBits) :
    format.nearest numerator denominator = format.infinity := by
  rw [nearest_eq_rounded filled positive, rounded]
  refine Nat.min_eq_left (large.trans (le_trans ?_ (Nat.le_add_right _ _)))
  refine Nat.mul_le_mul_right _ (Int.toNat_le_toNat ?_)
  omega

/-- A quotient below half of the least number is rounded to zero. -/
theorem nearest_of_small (positive : 0 < denominator) (lowest : format.minExponent ≤ 0)
    (small : 2 * (numerator * 2 ^ (-format.minExponent).toNat) < denominator) :
    format.nearest numerator denominator = 0 := by
  by_cases filled : numerator = 0
  · rw [nearest, if_pos filled]
  · have quotient : (0 : ℚ) < numerator / denominator :=
      div_pos (Nat.cast_pos.2 (Nat.pos_of_ne_zero filled)) (Nat.cast_pos.2 positive)
    have whole : format.minExponent.toNat = 0 := Int.toNat_of_nonpos lowest
    have low : Int.log 2 (numerator / denominator : ℚ) < format.minExponent := by
      refine (Int.lt_zpow_iff_log_lt one_lt_two quotient).1 (lt_of_not_ge fun reached => ?_)
      have reached := (two_zpow_le_div_iff positive _).1 reached
      rw [whole, Nat.pow_zero, Nat.mul_one] at reached
      omega
    have place : max (Int.log 2 (numerator / denominator : ℚ) - format.fractionBits)
        format.minExponent = format.minExponent := by omega
    have nothing : roundedQuotient (numerator * 2 ^ (-format.minExponent).toNat)
        (denominator * 2 ^ format.minExponent.toNat) = 0 := by
      rw [whole, Nat.pow_zero, Nat.mul_one, roundedQuotient, Nat.div_eq_of_lt (by omega),
        Nat.mod_eq_of_lt (by omega)]
      exact if_pos small
    rw [nearest_eq_rounded filled positive, rounded, place, nothing, sub_self]
    simp

end BinaryFormat

namespace Decimal

variable {decimal other : Decimal}

theorem denominator_pos (decimal : Decimal) : 0 < decimal.denominator :=
  Nat.pow_pos (by decide)

theorem value_eq_div (decimal : Decimal) :
    decimal.value = decimal.numerator / decimal.denominator := by
  unfold value numerator denominator
  rw [zpow_eq_div (by decide), Nat.pow_eq, Nat.pow_eq]
  push_cast
  rw [mul_div_assoc]

theorem two_pow_le_ten_pow {bits places : ℕ} (few : bits ≤ 3 * places) :
    2 ^ bits ≤ 10 ^ places := by
  calc 2 ^ bits ≤ 2 ^ (3 * places) := Nat.pow_le_pow_right (by decide) few
    _ = 8 ^ places := Nat.pow_mul 2 3 places
    _ ≤ 10 ^ places := Nat.pow_le_pow_left (by decide) places

theorem lt_ten_pow_log2 (number : ℕ) : number < 10 ^ (number.log2 / 3 + 1) := by
  calc number < 2 ^ (number.log2 + 1) := Nat.lt_log2_self
    _ ≤ 10 ^ (number.log2 / 3 + 1) := two_pow_le_ten_pow (by omega)

/-- A decimal beyond four hundred places before the point is rounded to infinity. -/
theorem nearest_of_high (filled : decimal.digits ≠ 0) (high : 400 < decimal.exponent) :
    BinaryFormat.binary64.nearest decimal.numerator decimal.denominator =
      BinaryFormat.binary64.infinity := by
  have least (bits : ℕ) (few : bits ≤ 1200) : 2 ^ bits ≤ decimal.numerator := by
    calc 2 ^ bits ≤ 10 ^ decimal.exponent.toNat := two_pow_le_ten_pow (by omega)
      _ ≤ decimal.numerator := Nat.le_mul_of_pos_left _ (Nat.pos_of_ne_zero filled)
  have positive : 0 < decimal.numerator := lt_of_lt_of_le (Nat.two_pow_pos 0) (least 0 (by decide))
  have whole : decimal.denominator = 1 := by
    rw [denominator, Int.toNat_of_nonpos (by omega)]
  have leading (bits : ℕ) (few : bits ≤ 1200) :
      (bits : ℤ) ≤ Int.log 2 (decimal.numerator / decimal.denominator : ℚ) := by
    rw [whole, Nat.cast_one, div_one]
    refine (Int.zpow_le_iff_le_log one_lt_two (Nat.cast_pos.2 positive)).1 ?_
    rw [zpow_natCast]
    exact_mod_cast least bits few
  have high := leading 1200 le_rfl
  refine BinaryFormat.nearest_of_large positive.ne' (denominator_pos _) ?_
  refine Nat.mul_le_mul_right _ (?_ : 0x7FF ≤ _)
  dsimp only [BinaryFormat.binary64]
  omega

/-- A decimal with four hundred zeros after the point is rounded to zero. -/
theorem nearest_of_low
    (low : decimal.exponent + ((decimal.digits.log2 / 3 + 1 : ℕ) : ℤ) < -400) :
    BinaryFormat.binary64.nearest decimal.numerator decimal.denominator = 0 := by
  have whole : decimal.numerator = decimal.digits := by
    rw [numerator, Int.toNat_of_nonpos (by omega)]
    exact Nat.mul_one _
  have least (bits : ℕ) (few : bits < 1200) :
      2 * (decimal.digits * 2 ^ bits) < decimal.denominator := by
    calc 2 * (decimal.digits * 2 ^ bits) = decimal.digits * 2 ^ (bits + 1) := by
          rw [Nat.pow_succ', Nat.mul_left_comm]
      _ < 10 ^ (decimal.digits.log2 / 3 + 1) * 2 ^ (bits + 1) :=
        Nat.mul_lt_mul_of_pos_right (lt_ten_pow_log2 _) (Nat.two_pow_pos _)
      _ ≤ 10 ^ (decimal.digits.log2 / 3 + 1) *
          10 ^ ((-decimal.exponent).toNat - (decimal.digits.log2 / 3 + 1)) :=
        Nat.mul_le_mul_left _ (two_pow_le_ten_pow (by omega))
      _ = decimal.denominator := by
        rw [← Nat.pow_add, Nat.add_sub_cancel' (by omega)]
        rfl
  refine BinaryFormat.nearest_of_small (denominator_pos _) (by decide) ?_
  rw [whole]
  exact least _ (by decide)

/-- Setting aside the decimals that are far too large or too small changes nothing. -/
theorem nearest_binary64 (decimal : Decimal) :
    decimal.nearest .binary64 =
      BinaryFormat.binary64.nearest decimal.numerator decimal.denominator := by
  unfold nearest
  split_ifs with empty high low
  · rw [numerator, empty, Nat.zero_mul, BinaryFormat.nearest, if_pos rfl]
  · exact (nearest_of_high empty high).symm
  · exact (nearest_of_low low).symm
  · rfl

/-- Decimals of the same value are read as the same number. -/
theorem nearest_congr (same : decimal.value = other.value) :
    decimal.nearest .binary64 = other.nearest .binary64 := by
  rw [nearest_binary64, nearest_binary64]
  refine BinaryFormat.nearest_congr (denominator_pos _) (denominator_pos _) ?_
  rw [← value_eq_div, ← value_eq_div, same]

theorem digits_ne_zero_of_nearest (read : decimal.nearest .binary64 ≠ 0) : decimal.digits ≠ 0 :=
  fun empty => read (if_pos empty)

theorem value_stripped (decimal : Decimal) : decimal.stripped.value = decimal.value := by
  fun_induction stripped decimal with
  | case1 decimal trailing ih =>
      have tenfold : decimal.digits = decimal.digits / 10 * 10 := by omega
      rw [ih]
      unfold value
      dsimp only
      rw [zpow_add_one₀ (by decide), ← mul_assoc, mul_right_comm]
      conv_rhs => rw [tenfold]
      push_cast
      rfl
  | case2 => rfl

end Decimal

namespace Binary64

variable {number : Binary64}

theorem value_exactDecimal (number : Binary64) :
    number.exactDecimal.value = number.numerator / number.denominator := by
  obtain ⟨place, power⟩ : ∃ place, number.denominator = 2 ^ place := ⟨_, rfl⟩
  unfold Decimal.value exactDecimal
  dsimp only
  rw [power, Nat.log2_two_pow, zpow_neg, zpow_natCast, Nat.pow_eq]
  push_cast
  rw [show (10 : ℚ) = 2 * 5 by norm_num, mul_pow]
  field_simp

/-- The shortest decimal of a number is read as the number. -/
theorem nearest_shortestDecimal (number : Binary64) :
    number.shortestDecimal.nearest .binary64 = number.magnitude := by
  have exact : number.exactDecimal.nearest .binary64 = number.magnitude := by
    rw [Decimal.nearest_binary64,
      BinaryFormat.nearest_congr (Decimal.denominator_pos _)
        (BinaryFormat.denominator_pos number.magnitude)
        ((Decimal.value_eq_div _).symm.trans number.value_exactDecimal)]
    exact BinaryFormat.nearest_numerator number.finite.le
  rw [shortestDecimal, Decimal.nearest_congr (Decimal.value_stripped _)]
  generalize search : List.findSome? _ _ = selected
  cases selected with
  | none => exact exact
  | some decimal =>
      obtain ⟨count, -, found⟩ := List.exists_of_findSome?_eq_some search
      have read : number.isReadFrom decimal = true := List.find?_some found
      exact beq_iff_eq.1 read

end Binary64

end EntityQuery

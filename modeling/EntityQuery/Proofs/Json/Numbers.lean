import EntityQuery.Json.Reader
import EntityQuery.Json.Render
import EntityQuery.Proofs.Number.Nearest

/-!
# Numbers in JSON text

The text of a number reads back as the number.  A whole number is its digits.  A number with a
fraction is the digits of its shortest decimal, laid out with a point, an exponent or both, so that
the text is never taken for a whole number and its parts have the value of the decimal.
-/

namespace EntityQuery

namespace Numeral

variable {whole : List Char} {number : ℕ}

theorem value_eq_ofDigitChars (digits : List Char) : value digits = Nat.ofDigitChars 10 digits 0 :=
  rfl

@[simp]
theorem value_toDigits (number : ℕ) : value (Nat.toDigits 10 number) = number :=
  Nat.ofDigitChars_ten_toDigits

theorem isDigit_toDigits (number : ℕ) : ∀ char ∈ Nat.toDigits 10 number, char.isDigit = true :=
  fun _ member => Nat.isDigit_of_mem_toDigits (by decide) (by decide) member

theorem natural?_toDigits (number : ℕ) : natural? (Nat.toDigits 10 number) = some number := by
  have filled : (Nat.toDigits 10 number).isEmpty = false :=
    List.isEmpty_eq_false_iff.2 Nat.toDigits_ne_nil
  have digits : (Nat.toDigits 10 number).all Char.isDigit = true :=
    List.all_eq_true.2 (isDigit_toDigits number)
  rw [natural?, filled, digits, value_toDigits]
  rfl

/-- The digits of a number do not start with a zero, unless they are this zero. -/
theorem head?_toDigits (positive : 0 < number) : (Nat.toDigits 10 number).head? ≠ some '0' := by
  induction number using Nat.strongRecOn with
  | ind number ih =>
      rw [Nat.toDigits_eq_if (by decide)]
      split_ifs with small
      · have nonzero : ∀ digit < 10, 0 < digit → digit.digitChar ≠ '0' := by decide
        exact fun same => nonzero number small positive (Option.some.inj same)
      · rw [List.head?_append_of_ne_nil _ Nat.toDigits_ne_nil]
        exact ih (number / 10) (by omega) (by omega)

theorem isStrict_of {parts : Parts} (filled : parts.whole ≠ [])
    (leading : parts.whole.head? ≠ some '0' ∨ parts.whole.length = 1)
    (after : parts.fraction ≠ some []) : parts.isStrict = true := by
  have nonempty : parts.whole.isEmpty = false := List.isEmpty_eq_false_iff.2 filled
  unfold Parts.isStrict
  simp [nonempty, after]
  simpa using leading

theorem toDigits_leading (number : ℕ) :
    (Nat.toDigits 10 number).head? ≠ some '0' ∨ (Nat.toDigits 10 number).length = 1 := by
  rcases Nat.eq_zero_or_pos number with rfl | positive
  · exact .inr rfl
  · exact .inl (head?_toDigits positive)

theorem value_append_zeros (digits : List Char) (count : ℕ) :
    value (digits ++ List.replicate count '0') = 10 ^ count * value digits := by
  rw [value_eq_ofDigitChars, Nat.ofDigitChars_append, Nat.ofDigitChars_replicate_zero,
    value_eq_ofDigitChars]

theorem value_zeros_append (count : ℕ) (digits : List Char) :
    value (List.replicate count '0' ++ digits) = value digits := by
  rw [value_eq_ofDigitChars, Nat.ofDigitChars_append, Nat.ofDigitChars_replicate_zero,
    Nat.mul_zero, value_eq_ofDigitChars]

theorem parts?_fraction {fraction : List Char} (all : ∀ char ∈ whole, char.isDigit = true)
    (allAfter : ∀ char ∈ fraction, char.isDigit = true) :
    parts? (whole ++ '.' :: fraction) = some ⟨whole, some fraction, none⟩ := by
  have split := span_digits all ('.' :: fraction) (by simp)
  have splitAfter := span_digits allAfter [] nofun
  rw [List.append_nil] at splitAfter
  simp only [parts?, split, splitAfter]

/-- A text with an exponent, and with a fraction unless there are no digits after the first. -/
theorem parts?_exponent {fraction exponent : List Char} {power : ℤ}
    (all : ∀ char ∈ whole, char.isDigit = true)
    (allAfter : ∀ char ∈ fraction, char.isDigit = true)
    (read : exponent? exponent = some power) :
    parts? (whole ++ (if fraction.isEmpty then [] else '.' :: fraction) ++ 'e' :: exponent) =
      some ⟨whole, if fraction.isEmpty then none else some fraction, some power⟩ := by
  have marked {parts : ℤ → Parts} :
      (if 'e' = 'e' ∨ 'e' = 'E' then (exponent? exponent).map parts else none) =
        some (parts power) := by
    rw [if_pos (.inl rfl), read]
    rfl
  cases fraction with
  | nil =>
      have split := span_digits all ('e' :: exponent) (by simp)
      rw [List.isEmpty_nil, if_pos rfl, if_pos rfl, List.append_nil, parts?, split]
      exact marked
  | cons digit others =>
      have split := span_digits all ('.' :: (digit :: others ++ 'e' :: exponent)) (by simp)
      have splitAfter := span_digits allAfter ('e' :: exponent) (by simp)
      rw [List.isEmpty_cons, if_neg (by decide), if_neg (by decide), List.append_assoc,
        List.cons_append, parts?, split]
      simp only [splitAfter]
      exact marked

/-- An exponent is written with its sign. -/
theorem exponent?_written (exponent : ℤ) :
    exponent? ((if exponent < 0 then '-' else '+') :: Nat.toDigits 10 exponent.natAbs) =
      some exponent := by
  split_ifs with negative
  · have sign : splitSign ('-' :: Nat.toDigits 10 exponent.natAbs) = (true, _) := rfl
    have same : -(exponent.natAbs : ℤ) = exponent := by omega
    simp only [exponent?, sign, natural?_toDigits]
    exact congrArg some same
  · have sign : splitSign ('+' :: Nat.toDigits 10 exponent.natAbs) = (false, _) := rfl
    have same : (exponent.natAbs : ℤ) = exponent := by omega
    simp only [exponent?, sign, natural?_toDigits]
    exact congrArg some same

end Numeral

namespace Json

open Numeral

theorem isNumberChar_of_isDigit {char : Char} (digit : char.isDigit = true) :
    isNumberChar char = true := by
  simp [isNumberChar, digit]

/-- The text starts with a digit and has nothing but characters of numbers. -/
structure IsUnsigned (chars : List Char) : Prop where
  starts : ∃ digit ∈ chars.head?, digit.isDigit = true
  chars : ∀ char ∈ chars, isNumberChar char = true

theorem isUnsigned_append {digits rest : List Char} (filled : digits ≠ [])
    (all : ∀ char ∈ digits, char.isDigit = true)
    (others : ∀ char ∈ rest, isNumberChar char = true) : IsUnsigned (digits ++ rest) where
  starts := by
    obtain ⟨first, later, rfl⟩ := List.exists_cons_of_ne_nil filled
    exact ⟨first, rfl, all first List.mem_cons_self⟩
  chars := List.forall_mem_append.2
    ⟨fun char member => isNumberChar_of_isDigit (all char member), others⟩

/-- The text is that of a number with this value, and not that of a whole number. -/
structure WritesReal (chars : List Char) (number : ℚ) : Prop where
  unsigned : IsUnsigned chars
  parted : ∃ parts, parts? chars = some parts ∧ parts.isStrict = true ∧
    (parts.fraction.isNone && parts.exponent.isNone) = false ∧ parts.decimal.value = number

section Layout

variable {digits : List Char}

theorem isDigit_zeros (count : ℕ) : ∀ char ∈ List.replicate count '0', char.isDigit = true := by
  intro char member
  rw [List.eq_of_mem_replicate member]
  rfl

theorem writesReal_whole (filled : digits ≠ []) (all : ∀ char ∈ digits, char.isDigit = true)
    (leading : digits.head? ≠ some '0') (count : ℕ) :
    WritesReal (digits ++ List.replicate count '0' ++ ['.', '0'])
      (value digits * (10 : ℚ) ^ count) := by
  have whole : ∀ char ∈ digits ++ List.replicate count '0', char.isDigit = true :=
    List.forall_mem_append.2 ⟨all, isDigit_zeros count⟩
  have wholeFilled : digits ++ List.replicate count '0' ≠ [] := by simp [filled]
  refine ⟨isUnsigned_append wholeFilled whole (List.all_eq_true.1 rfl), _,
    parts?_fraction whole (isDigit_zeros 1), isStrict_of wholeFilled (.inl ?_) (by simp), rfl, ?_⟩
  · rwa [List.head?_append_of_ne_nil _ filled]
  · have appended : value (digits ++ List.replicate count '0' ++ ['0']) =
        10 ^ (count + 1) * value digits := by
      rw [List.append_assoc, ← List.replicate_one, List.replicate_append_replicate,
        value_append_zeros]
    unfold Decimal.value Parts.decimal
    dsimp only [Option.getD_some, Option.getD_none]
    rw [appended, List.length_singleton, zero_sub, Nat.cast_one, zpow_neg_one]
    push_cast
    ring

theorem writesReal_inside (filled : digits ≠ []) (all : ∀ char ∈ digits, char.isDigit = true)
    (leading : digits.head? ≠ some '0') {point : ℕ} (positive : 0 < point)
    (within : point < digits.length) :
    WritesReal (digits.take point ++ '.' :: digits.drop point)
      (value digits * (10 : ℚ) ^ ((point : ℤ) - digits.length)) := by
  have front : ∀ char ∈ digits.take point, char.isDigit = true :=
    fun char member => all char (List.mem_of_mem_take member)
  have back : ∀ char ∈ digits.drop point, char.isDigit = true :=
    fun char member => all char (List.mem_of_mem_drop member)
  have frontFilled : digits.take point ≠ [] := by simpa [filled] using positive.ne'
  refine ⟨isUnsigned_append frontFilled front (List.forall_mem_cons.2 ⟨by decide,
    fun char member => isNumberChar_of_isDigit (back char member)⟩), _,
    parts?_fraction front back, isStrict_of frontFilled (.inl ?_) ?_, rfl, ?_⟩
  · rwa [List.head?_take, if_neg positive.ne']
  · simpa using within
  · unfold Decimal.value Parts.decimal
    dsimp only [Option.getD_some, Option.getD_none]
    rw [List.take_append_drop, List.length_drop, zero_sub, Nat.cast_sub within.le, neg_sub]

theorem writesReal_zeros (filled : digits ≠ []) (all : ∀ char ∈ digits, char.isDigit = true)
    (count : ℕ) :
    WritesReal ('0' :: '.' :: List.replicate count '0' ++ digits)
      (value digits * (10 : ℚ) ^ (-(count : ℤ) - digits.length)) := by
  have after : ∀ char ∈ List.replicate count '0' ++ digits, char.isDigit = true :=
    List.forall_mem_append.2 ⟨isDigit_zeros count, all⟩
  have same : value ('0' :: (List.replicate count '0' ++ digits)) = value digits :=
    value_zeros_append (count + 1) digits
  have text : '0' :: '.' :: List.replicate count '0' ++ digits =
      ['0'] ++ '.' :: (List.replicate count '0' ++ digits) := rfl
  rw [text]
  refine ⟨isUnsigned_append (List.cons_ne_nil _ _) (isDigit_zeros 1) (List.forall_mem_cons.2
    ⟨by decide, fun char member => isNumberChar_of_isDigit (after char member)⟩), _,
    parts?_fraction (isDigit_zeros 1) after,
    isStrict_of (by simp) (.inr rfl) (by simp [filled]), rfl, ?_⟩
  unfold Decimal.value Parts.decimal
  dsimp only [Option.getD_some, Option.getD_none]
  rw [List.singleton_append, same, List.length_append, List.length_replicate]
  push_cast
  ring_nf

theorem writesReal_exponent (filled : digits ≠ []) (all : ∀ char ∈ digits, char.isDigit = true)
    (power : ℤ) :
    WritesReal (digits.take 1 ++ (if (digits.drop 1).isEmpty then [] else '.' :: digits.drop 1) ++
        'e' :: (if power < 0 then '-' else '+') :: Nat.toDigits 10 power.natAbs)
      (value digits * (10 : ℚ) ^ (power + 1 - digits.length)) := by
  obtain ⟨first, others, rfl⟩ := List.exists_cons_of_ne_nil filled
  have front : (first :: others).take 1 = [first] := rfl
  have back : (first :: others).drop 1 = others := rfl
  rw [front, back]
  obtain ⟨digit, after⟩ := List.forall_mem_cons.1 all
  have digits : ∀ char ∈ [first], char.isDigit = true := List.forall_mem_singleton.2 digit
  have fraction : (if others.isEmpty then none else some others).getD [] = others := by
    cases others <;> rfl
  refine ⟨?_, _, parts?_exponent digits after (exponent?_written power),
    isStrict_of (List.cons_ne_nil _ _) (.inr rfl) ?_, Bool.and_false _, ?_⟩
  · rw [List.append_assoc]
    refine isUnsigned_append (List.cons_ne_nil _ _) digits (List.forall_mem_append.2
      ⟨?_, List.forall_mem_cons.2 ⟨by decide, List.forall_mem_cons.2 ⟨by split_ifs <;> decide,
        fun char member => isNumberChar_of_isDigit (isDigit_toDigits _ char member)⟩⟩⟩)
    split_ifs
    · exact nofun
    · exact List.forall_mem_cons.2 ⟨by decide,
        fun char member => isNumberChar_of_isDigit (after char member)⟩
  · cases others <;> simp
  · unfold Decimal.value Parts.decimal
    dsimp only [Option.getD_some]
    rw [fraction, List.singleton_append, List.length_cons]
    push_cast
    ring_nf

/-- Digits with a point after some of them, laid out in whichever way, write a number with their
value. -/
theorem writesReal_layout (filled : digits ≠ []) (all : ∀ char ∈ digits, char.isDigit = true)
    (leading : digits.head? ≠ some '0') (point : ℤ) :
    WritesReal (layout digits point) (value digits * (10 : ℚ) ^ (point - digits.length)) := by
  unfold layout
  dsimp only
  by_cases above : digits.length ≤ point ∧ point ≤ mostWholePlaces
  · rw [if_pos above]
    have count : ((point - digits.length).toNat : ℤ) = point - digits.length := by omega
    rw [← count, zpow_natCast]
    exact writesReal_whole filled all leading _
  rw [if_neg above]
  by_cases inside : 0 < point ∧ point ≤ mostWholePlaces
  · rw [if_pos inside]
    have count : (point.toNat : ℤ) = point := by omega
    have positive : 0 < point.toNat := by omega
    have written := writesReal_inside filled all leading positive (by omega)
    rwa [count] at written
  rw [if_neg inside]
  by_cases below : point ≤ 0 ∧ -point ≤ mostLeadingZeros
  · rw [if_pos below]
    have count : -((-point).toNat : ℤ) = point := by omega
    have written := writesReal_zeros filled all (-point).toNat
    rwa [count] at written
  rw [if_neg below]
  have written := writesReal_exponent filled all (point - 1)
  rwa [sub_add_cancel] at written

end Layout

/-- The characters of a number as JSON text has it. -/
def IsNumeral (chars : List Char) : Prop :=
  ∃ body, (chars = body ∨ chars = '-' :: body) ∧ IsUnsigned body

theorem IsUnsigned.signed {body : List Char} (unsigned : IsUnsigned body) (negative : Bool) :
    IsNumeral (if negative then '-' :: body else body) := by
  refine ⟨body, ?_, unsigned⟩
  cases negative
  · exact .inl rfl
  · exact .inr rfl

theorem ofNumeral?_of_parts {body : List Char} {parts : Parts} (negative : Bool)
    (unsigned : IsUnsigned body) (written : parts? body = some parts)
    (strict : parts.isStrict = true) :
    ofNumeral? (if negative then '-' :: body else body) =
      if parts.fraction.isNone && parts.exponent.isNone && !negative &&
          value parts.whole < Nat.pow 2 64 then some (.integer (value parts.whole))
      else if parts.fraction.isNone && parts.exponent.isNone && negative &&
          value parts.whole != 0 && value parts.whole ≤ Nat.pow 2 63 then
        some (.integer (-(value parts.whole : Int)))
      else (parts.decimal.toBinary64 negative).finite?.map .real := by
  have read : ofNumeral? (if negative then '-' :: body else body) =
      (parts? body).bind fun parts => if !parts.isStrict then none else
        if parts.fraction.isNone && parts.exponent.isNone && !negative &&
            value parts.whole < Nat.pow 2 64 then some (.integer (value parts.whole))
        else if parts.fraction.isNone && parts.exponent.isNone && negative &&
            value parts.whole != 0 && value parts.whole ≤ Nat.pow 2 63 then
          some (.integer (-(value parts.whole : Int)))
        else (parts.decimal.toBinary64 negative).finite?.map .real := by
    cases negative with
    | true => rfl
    | false =>
        unfold ofNumeral?
        rw [if_neg (by decide)]
        split
        next sign rest split =>
          split at split
          next =>
            obtain ⟨digit, first, isDigit⟩ := unsigned.starts
            obtain rfl : '-' = digit := Option.some.inj first
            exact absurd isDigit (by decide)
          next =>
            obtain ⟨rfl, rfl⟩ := Prod.mk.inj split
            rfl
  rw [read, written, Option.bind_some, strict]
  rfl

/-- The digits of a whole number of at most 64 bits read as the number. -/
theorem ofNumeral?_toString {number : ℤ} (least : -2 ^ 63 ≤ number) (most : number < 2 ^ 64) :
    IsNumeral (toString number).toList ∧
      ofNumeral? (toString number).toList = some (.integer number) := by
  have written : (toString number).toList =
      if decide (number < 0) then '-' :: Nat.toDigits 10 number.natAbs
      else Nat.toDigits 10 number.natAbs := by
    rw [Int.toString_eq_repr, Int.repr_eq_if]
    by_cases negative : number < 0
    · have size : (-number).toNat = number.natAbs := by omega
      rw [if_neg (by omega), if_pos (decide_eq_true negative), size, Nat.repr_eq_ofList_toDigits,
        String.toList_append, String.toList_ofList, String.toList_ofList]
      exact List.singleton_append
    · have size : number.toNat = number.natAbs := by omega
      rw [if_pos (by omega), if_neg (by simpa using negative), size, Nat.repr_eq_ofList_toDigits,
        String.toList_ofList]
  have unsigned : IsUnsigned (Nat.toDigits 10 number.natAbs) := by
    rw [← List.append_nil (Nat.toDigits 10 number.natAbs)]
    exact isUnsigned_append Nat.toDigits_ne_nil (isDigit_toDigits _) nofun
  rw [written]
  refine ⟨unsigned.signed _, ?_⟩
  rw [ofNumeral?_of_parts _ unsigned (parts?_digits (isDigit_toDigits _))
    (isStrict_of Nat.toDigits_ne_nil (toDigits_leading _) (by simp)), value_toDigits, Nat.pow_eq,
    Nat.pow_eq]
  by_cases negative : number < 0
  · have sign : decide (number < 0) = true := decide_eq_true negative
    have same : -(number.natAbs : ℤ) = number := by omega
    have filled : number.natAbs ≠ 0 := by omega
    have small : number.natAbs ≤ 2 ^ 63 := by omega
    rw [sign, if_neg (by simp), if_pos (by simpa [filled] using small), same]
  · have sign : decide (number < 0) = false := decide_eq_false negative
    have same : (number.natAbs : ℤ) = number := by omega
    have small : number.natAbs < 2 ^ 64 := by omega
    rw [sign, if_pos (by simpa using small), same]

/-- A number with a fraction is written as a number that is not whole and reads as the same
magnitude. -/
theorem exists_writesReal (number : Binary64) :
    ∃ body value, (renderReal number).toList = (if number.negative then '-' :: body else body) ∧
      WritesReal body value ∧
      ∀ decimal : Decimal, decimal.value = value →
        decimal.nearest .binary64 = number.magnitude := by
  unfold renderReal
  dsimp only
  by_cases zero : number.magnitude = 0
  · refine ⟨['0', '.', '0'], 0, ?_, ⟨⟨⟨'0', rfl, by decide⟩, List.all_eq_true.1 rfl⟩, _,
      parts?_fraction (isDigit_zeros 1) (isDigit_zeros 1), by decide, by decide, ?_⟩,
      fun decimal same => ?_⟩
    · rw [if_pos zero]
      exact String.toList_ofList
    · exact zero_mul _
    · have read : (⟨0, 0⟩ : Decimal).nearest .binary64 = 0 := rfl
      rw [zero, ← read]
      exact Decimal.nearest_congr (same.trans (zero_mul _).symm)
  · have read := number.nearest_shortestDecimal
    have positive : 0 < number.shortestDecimal.digits :=
      Nat.pos_of_ne_zero (Decimal.digits_ne_zero_of_nearest (read ▸ zero))
    have written := writesReal_layout Nat.toDigits_ne_nil
      (isDigit_toDigits number.shortestDecimal.digits) (head?_toDigits positive)
      (number.shortestDecimal.exponent + (Nat.toDigits 10 number.shortestDecimal.digits).length)
    rw [value_toDigits, add_sub_cancel_right] at written
    refine ⟨_, _, ?_, written, fun decimal same => ?_⟩
    · rw [if_neg zero]
      exact String.toList_ofList
    · rw [← read]
      exact Decimal.nearest_congr same

/-- The text of a number with a fraction reads as the number. -/
theorem ofNumeral?_renderReal (number : Binary64) :
    IsNumeral (renderReal number).toList ∧
      ofNumeral? (renderReal number).toList = some (.real number) := by
  obtain ⟨body, value, written, ⟨unsigned, parts, parted, strict, fractional, same⟩, nearest⟩ :=
    exists_writesReal number
  rw [written]
  refine ⟨unsigned.signed _, ?_⟩
  rw [ofNumeral?_of_parts _ unsigned parted strict, fractional]
  simp only [Bool.false_and, Bool.false_eq_true, if_false]
  rw [Decimal.toBinary64, nearest _ same, ExtendedBinary64.ofMagnitude, Binary64.ofMagnitude?,
    dif_pos number.finite]
  rfl

/-- A number token is a whole number of at most 64 bits, or a number with a fraction. -/
theorem of_ofNumeral? {chars : List Char} {token : Json} (read : ofNumeral? chars = some token) :
    (∃ number : ℤ, -2 ^ 63 ≤ number ∧ number < 2 ^ 64 ∧ token = .integer number) ∨
      ∃ number, token = .real number := by
  unfold ofNumeral? at read
  dsimp only at read
  obtain ⟨parts, -, read⟩ := Option.bind_eq_some_iff.1 read
  split_ifs at read with loose positive negative
  · have small : value parts.whole < 2 ^ 64 := of_decide_eq_true (Bool.and_eq_true_iff.1 positive).2
    exact .inl ⟨_, by omega, by omega, (Option.some.inj read).symm⟩
  · have small : value parts.whole ≤ 2 ^ 63 := of_decide_eq_true (Bool.and_eq_true_iff.1 negative).2
    exact .inl ⟨_, by omega, by omega, (Option.some.inj read).symm⟩
  · obtain ⟨number, -, rfl⟩ := Option.map_eq_some_iff.1 read
    exact .inr ⟨number, rfl⟩

end Json

end EntityQuery

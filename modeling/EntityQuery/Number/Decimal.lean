import EntityQuery.Number.Binary

/-!
# Decimal numbers and the shortest decimal of a binary one

A decimal is written by its digits and a power of ten.  Reading one into a binary format rounds
its exact value once.  In the other direction a binary number is written with the fewest digits
that read back to it, and of those with the nearest.
-/

namespace EntityQuery

/-- The non-negative decimal number `digits · 10 ^ exponent`. -/
structure Decimal where
  digits : Nat
  exponent : Int
  deriving DecidableEq, Repr

namespace Decimal

/-- The value of the decimal as a numerator. -/
def numerator (decimal : Decimal) : Nat := decimal.digits * Nat.pow 10 decimal.exponent.toNat

/-- The value of the decimal as a denominator. -/
def denominator (decimal : Decimal) : Nat := Nat.pow 10 (-decimal.exponent).toNat

/-- At least as many decimal digits as the natural number has. -/
private def digitBound (number : Nat) : Nat := number.log2 / 3 + 1

/-- The magnitude nearest to a decimal.  Beyond four hundred places either way there is nothing
left to round in the formats at hand, so that a huge exponent needs no huge power. -/
def nearest (format : BinaryFormat) (decimal : Decimal) : Nat :=
  if decimal.digits = 0 then 0
  else if 400 < decimal.exponent then format.infinity
  else if decimal.exponent + digitBound decimal.digits < -400 then 0
  else format.nearest decimal.numerator decimal.denominator

/-- The 64-bit number nearest to a signed decimal, or an infinity. -/
def toBinary64 (negative : Bool) (decimal : Decimal) : ExtendedBinary64 :=
  .ofMagnitude negative (decimal.nearest .binary64)

/-- The 32-bit number nearest to a signed decimal, or an infinity, as a 64-bit one. -/
def toBinary32 (negative : Bool) (decimal : Decimal) : ExtendedBinary64 :=
  .ofMagnitude32 negative (decimal.nearest .binary32)

/-- The same number without trailing zeros in its digits. -/
def stripped (decimal : Decimal) : Decimal :=
  if trailing : 0 < decimal.digits ∧ decimal.digits % 10 = 0 then
    stripped ⟨decimal.digits / 10, decimal.exponent + 1⟩
  else decimal
termination_by decimal.digits
decreasing_by exact Nat.div_lt_self trailing.1 (by decide)

end Decimal

namespace Binary64

/-- Whether the decimal is read as the magnitude of this number. -/
def isReadFrom (number : Binary64) (decimal : Decimal) : Bool :=
  decimal.nearest .binary64 == number.magnitude

/-- An exponent just above the number: its value is at most `10 ^ scale` and more than a tenth
of it. -/
def scale (number : Binary64) : Int :=
  if number.denominator ≤ number.numerator then
    (Nat.toDigits 10 (number.numerator / number.denominator)).length
  else 1 - (Nat.toDigits 10 (number.denominator / number.numerator)).length

/-- The two neighbours of the number among the multiples of `10 ^ place`, the nearer one first and
the even one first when both are as near. -/
def neighbours (number : Binary64) (place : Int) : List Decimal :=
  let numerator := number.numerator * Nat.pow 10 (-place).toNat
  let denominator := number.denominator * Nat.pow 10 place.toNat
  let below := numerator / denominator
  if roundedQuotient numerator denominator = below then [⟨below, place⟩, ⟨below + 1, place⟩]
  else [⟨below + 1, place⟩, ⟨below, place⟩]

/-- The exact decimal value of the number. -/
def exactDecimal (number : Binary64) : Decimal :=
  ⟨number.numerator * Nat.pow 5 number.denominator.log2, -number.denominator.log2⟩

/-- The shortest decimal that is read as the number, the nearest of those. -/
def shortestDecimal (number : Binary64) : Decimal :=
  let selected := (List.range' 1 17).findSome? fun (count : Nat) =>
    (number.neighbours (number.scale - count)).find? number.isReadFrom
  (selected.getD number.exactDecimal).stripped

end Binary64

end EntityQuery

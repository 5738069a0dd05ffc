/-!
# Binary floating-point numbers, exactly

A finite binary number is a sign and a *magnitude*: the exponent and fraction fields read as one
natural number, so that a larger magnitude is a larger number.  Rounding to a format is a single
rounded quotient of natural numbers.  JSON numbers with a fraction are `Binary64`; the narrower
format only appears at the wire of a database server.
-/

namespace EntityQuery

/-- The quotient rounded to the nearest integer, a tie going to the even neighbour. -/
def roundedQuotient (numerator denominator : Nat) : Nat :=
  let quotient := numerator / denominator
  let remainder := numerator % denominator
  if 2 * remainder < denominator then quotient
  else if denominator < 2 * remainder then quotient + 1
  else if quotient % 2 = 0 then quotient else quotient + 1

/-- The layout of a binary floating-point format. -/
structure BinaryFormat where
  /-- Bits of the fraction field. -/
  fractionBits : Nat
  /-- The exponent of the last place of the least numbers. -/
  minExponent : Int
  /-- The magnitude of infinity: every smaller magnitude is a finite number. -/
  infinity : Nat

namespace BinaryFormat

def binary32 : BinaryFormat := ⟨23, -149, 0xFF * Nat.pow 2 23⟩

def binary64 : BinaryFormat := ⟨52, -1074, 0x7FF * Nat.pow 2 52⟩

/-- The magnitude of the number nearest to a quotient; `infinity` when none is large enough. -/
def nearest (format : BinaryFormat) (numerator denominator : Nat) : Nat :=
  if numerator = 0 then 0
  else
    let estimate : Int := (numerator.log2 : Int) - denominator.log2
    let reached :=
      denominator * Nat.pow 2 estimate.toNat ≤ numerator * Nat.pow 2 (-estimate).toNat
    let leading := if reached then estimate else estimate - 1
    let place := max (leading - format.fractionBits) format.minExponent
    let significand :=
      roundedQuotient (numerator * Nat.pow 2 (-place).toNat) (denominator * Nat.pow 2 place.toNat)
    min format.infinity
      ((place - format.minExponent).toNat * Nat.pow 2 format.fractionBits + significand)

/-- The integer `significand` of a magnitude: its value is
`significand · 2 ^ exponent`. -/
def significand (format : BinaryFormat) (magnitude : Nat) : Nat :=
  let fraction := magnitude % Nat.pow 2 format.fractionBits
  if magnitude / Nat.pow 2 format.fractionBits = 0 then fraction
  else Nat.pow 2 format.fractionBits + fraction

def exponent (format : BinaryFormat) (magnitude : Nat) : Int :=
  format.minExponent + (max (magnitude / Nat.pow 2 format.fractionBits) 1 - 1 : Nat)

/-- The value of a magnitude as a numerator. -/
def numerator (format : BinaryFormat) (magnitude : Nat) : Nat :=
  format.significand magnitude * Nat.pow 2 (format.exponent magnitude).toNat

/-- The value of a magnitude as a denominator. -/
def denominator (format : BinaryFormat) (magnitude : Nat) : Nat :=
  Nat.pow 2 (-format.exponent magnitude).toNat

end BinaryFormat

/-- A finite 64-bit floating-point number. -/
structure Binary64 where
  negative : Bool
  magnitude : Nat
  finite : magnitude < BinaryFormat.binary64.infinity
  deriving DecidableEq

namespace Binary64

instance : Inhabited Binary64 := ⟨⟨false, 0, by decide⟩⟩

/-- The number with a sign and a magnitude, unless the magnitude is beyond the finite ones. -/
def ofMagnitude? (negative : Bool) (magnitude : Nat) : Option Binary64 :=
  if finite : magnitude < BinaryFormat.binary64.infinity then
    some ⟨negative, magnitude, finite⟩
  else none

/-- The number without its sign, as a numerator. -/
def numerator (number : Binary64) : Nat :=
  BinaryFormat.binary64.numerator number.magnitude

/-- The number without its sign, as a denominator. -/
def denominator (number : Binary64) : Nat :=
  BinaryFormat.binary64.denominator number.magnitude

/-- The number without its sign and its fraction. -/
def wholePart (number : Binary64) : Nat := number.numerator / number.denominator

/-- The 64 bits of the number, the sign first. -/
def bits (number : Binary64) : Nat :=
  (if number.negative then Nat.pow 2 63 else 0) + number.magnitude

end Binary64

/-- A 64-bit floating-point number or one of the values that are no number. -/
inductive ExtendedBinary64
  | finite (number : Binary64)
  | infinite (negative : Bool)
  | notANumber (negative : Bool)
  deriving DecidableEq

namespace ExtendedBinary64

/-- The number itself, when it is one. -/
def finite? : ExtendedBinary64 → Option Binary64
  | .finite number => some number
  | _ => none

/-- A sign and a magnitude, the finite magnitudes being numbers. -/
def ofMagnitude (negative : Bool) (magnitude : Nat) : ExtendedBinary64 :=
  match Binary64.ofMagnitude? negative magnitude with
  | some number => .finite number
  | none =>
      if magnitude = BinaryFormat.binary64.infinity then .infinite negative
      else .notANumber negative

/-- The value with the given 64 bits. -/
def ofBits (bits : Nat) : ExtendedBinary64 :=
  ofMagnitude (decide (Nat.pow 2 63 ≤ bits)) (bits % Nat.pow 2 63)

/-- The 64 bits of the value; what is no number has the leading fraction bit set. -/
def bits : ExtendedBinary64 → Nat
  | .finite number => number.bits
  | .infinite negative =>
      (if negative then Nat.pow 2 63 else 0) + BinaryFormat.binary64.infinity
  | .notANumber negative =>
      (if negative then Nat.pow 2 63 else 0) + BinaryFormat.binary64.infinity + Nat.pow 2 51

/-- The 32 bits of the value rounded to the narrower format. -/
def bits32 : ExtendedBinary64 → Nat
  | .finite number =>
      (if number.negative then Nat.pow 2 31 else 0) +
        BinaryFormat.binary32.nearest number.numerator number.denominator
  | .infinite negative =>
      (if negative then Nat.pow 2 31 else 0) + BinaryFormat.binary32.infinity
  | .notANumber negative =>
      (if negative then Nat.pow 2 31 else 0) + BinaryFormat.binary32.infinity + Nat.pow 2 22

/-- The 64-bit value equal to the 32-bit one with a sign and a magnitude. -/
def ofMagnitude32 (negative : Bool) (magnitude : Nat) : ExtendedBinary64 :=
  if magnitude < BinaryFormat.binary32.infinity then
    ofMagnitude negative
      (BinaryFormat.binary64.nearest (BinaryFormat.binary32.numerator magnitude)
        (BinaryFormat.binary32.denominator magnitude))
  else if magnitude = BinaryFormat.binary32.infinity then .infinite negative
  else .notANumber negative

/-- The value with the given 32 bits. -/
def ofBits32 (bits : Nat) : ExtendedBinary64 :=
  ofMagnitude32 (decide (Nat.pow 2 31 ≤ bits)) (bits % Nat.pow 2 31)

end ExtendedBinary64

end EntityQuery

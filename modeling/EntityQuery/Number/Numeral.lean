import EntityQuery.Number.Decimal

/-!
# Numbers written as text

A numeral is cut into its whole digits, the digits after the point and the exponent.  Which of
these parts may be missing is left to each format: plain text accepts a lone point on either side
of the digits, JSON does not.
-/

namespace EntityQuery.Numeral

/-- The value of a list of decimal digits. -/
def value (digits : List Char) : Nat :=
  digits.foldl (fun total digit => 10 * total + (digit.toNat - '0'.toNat)) 0

/-- The value of a non-empty list of ASCII digits. -/
def natural? (chars : List Char) : Option Nat :=
  if !chars.isEmpty && chars.all Char.isDigit then some (value chars) else none

/-- A leading sign, whether it is a minus, and what follows. -/
def splitSign : List Char → Bool × List Char
  | '-' :: rest => (true, rest)
  | '+' :: rest => (false, rest)
  | chars => (false, chars)

/-- A natural number with an optional plus sign. -/
def unsigned? (text : String) : Option Nat :=
  match text.toList with
  | '+' :: rest => natural? rest
  | chars => natural? chars

def signed? (text : String) : Option Int :=
  let (negative, rest) := splitSign text.toList
  (natural? rest).map fun number => if negative then -(number : Int) else number

/-- An unsigned integer of at most `bits` bits. -/
def unsignedWithin? (bits : Nat) (text : String) : Option Nat :=
  (unsigned? text).filter (· < Nat.pow 2 bits)

/-- Whether an integer fits `bits` bits in two's complement. -/
def fitsSigned (bits : Nat) (number : Int) : Bool :=
  -(Nat.pow 2 (bits - 1) : Int) ≤ number && number < (Nat.pow 2 (bits - 1) : Int)

/-- A signed integer of at most `bits` bits. -/
def signedWithin? (bits : Nat) (text : String) : Option Int :=
  (signed? text).filter (fitsSigned bits)

/-- The parts of an unsigned numeral. -/
structure Parts where
  whole : List Char
  fraction : Option (List Char)
  exponent : Option Int

/-- The exponent after an `e`, with an optional sign. -/
def exponent? (chars : List Char) : Option Int :=
  let (negative, rest) := splitSign chars
  (natural? rest).map fun number => if negative then -(number : Int) else number

/-- The parts of a numeral that uses all of the text. -/
def parts? (chars : List Char) : Option Parts :=
  let (whole, rest) := chars.span Char.isDigit
  let (fraction, rest) := match rest with
    | '.' :: after =>
        let (fraction, rest) := after.span Char.isDigit
        (some fraction, rest)
    | _ => (none, rest)
  match rest with
  | [] => some ⟨whole, fraction, none⟩
  | mark :: after =>
      if mark = 'e' ∨ mark = 'E' then
        (exponent? after).map fun exponent => ⟨whole, fraction, some exponent⟩
      else none

/-- The decimal number that the parts denote. -/
def Parts.decimal (parts : Parts) : Decimal :=
  let fraction := parts.fraction.getD []
  ⟨value (parts.whole ++ fraction), parts.exponent.getD 0 - fraction.length⟩

/-- Whether there are digits before the point, without a needless zero in front, and digits after
the point if there is one. -/
def Parts.isStrict (parts : Parts) : Bool :=
  !parts.whole.isEmpty && (parts.whole.head? != some '0' || parts.whole.length == 1) &&
    parts.fraction != some []

/-- A decimal number with at least one digit, before or after the point. -/
def decimal? (chars : List Char) : Option Decimal :=
  (parts? chars).bind fun parts =>
    if parts.whole.isEmpty && (parts.fraction.getD []).isEmpty then none
    else some parts.decimal

/-- A floating-point number as text: a sign, then a decimal number, `inf`, `infinity` or `nan`
in any case. -/
def real? (round : Bool → Decimal → ExtendedBinary64) (text : String) :
    Option ExtendedBinary64 :=
  let (negative, rest) := splitSign text.toList
  match decimal? rest with
  | some decimal => some (round negative decimal)
  | none =>
      let word := String.ofList (rest.map Char.toLower)
      if word = "inf" ∨ word = "infinity" then some (.infinite negative)
      else if word = "nan" then some (.notANumber negative)
      else none

/-- The 64-bit number nearest to the text. -/
def real64? (text : String) : Option ExtendedBinary64 := real? Decimal.toBinary64 text

/-- The 32-bit number nearest to the text. -/
def real32? (text : String) : Option ExtendedBinary64 := real? Decimal.toBinary32 text

end EntityQuery.Numeral

import EntityQuery.Text.Hexadecimal
import EntityQuery.Toml.Value

/-!
# Unquoted TOML values

Truth values, whole numbers, numbers with a fraction, and moments.  An underscore may stand between
two digits of a number and counts for nothing.  The form of a whole number shows that it is one
before all its digits are looked at, so it may turn out to have no value.
-/

namespace EntityQuery.Toml

/-- The characters without underscores, each of which must stand between two digits. -/
def ungrouped? (isDigit : Char → Bool) : List Char → Option (List Char)
  | [] => some []
  | before :: '_' :: after :: rest =>
      if isDigit before && isDigit after then
        (ungrouped? isDigit (after :: rest)).map (before :: ·)
      else none
  | char :: rest => if char = '_' then none else (ungrouped? isDigit rest).map (char :: ·)

/-- Whether a character is a hexadecimal digit. -/
def isHexDigit (char : Char) : Bool := (Hexadecimal.value? char).isSome

/-- The number, if it fits 64 bits with a sign or without one. -/
def within64? (number : Int) : Option Int :=
  if -(Nat.pow 2 63) ≤ number && number < Nat.pow 2 64 then some number else none

/-- The value of digits in some base, of which there is at least one. -/
def digitsIn? (base : Nat) (digits : List Char) : Option Nat :=
  if digits.isEmpty then none
  else
    digits.foldlM (fun total char =>
      ((Hexadecimal.value? char).filter (· < base)).map fun digit => base * total + digit) 0

/-- A natural number in some base, after the mark of the base.  It has no value without digits. -/
def naturalIn? (base : Nat) (chars : List Char) : Option Value :=
  let isDigit (char : Char) : Bool :=
    match Hexadecimal.value? char with
    | some digit => digit < base
    | none => false
  if chars.all fun char => char == '_' || isDigit char then
    (ungrouped? isDigit chars).map fun digits =>
      .integer ((digitsIn? base digits).bind fun number => within64? number)
  else none

def wholeNumber (negative : Bool) (digits : List Char) : Value :=
  .integer ((Numeral.natural? digits).bind fun number =>
    within64? (if negative then -(number : Int) else number))

/-- A number with a fraction or an exponent. -/
def realNumber (negative : Bool) (parts : Numeral.Parts) : Value :=
  .real ((parts.decimal.toBinary64 negative).finite?.map fun number => .finite number)

/-- The characters that only a number with a fraction or an exponent has. -/
def isRealMark (char : Char) : Bool := char == '.' || char == 'e' || char == 'E'

/-- A decimal number after its sign, if it has one.  Its digits do not begin with a needless zero.
What follows them tells its kind: nothing or an underscore a whole number, or else a point or an
exponent somewhere. -/
def decimal? (negative : Bool) (chars : List Char) : Option Value :=
  let rest := chars.dropWhile Char.isDigit
  if rest.contains ' ' then none
  else if rest.any isRealMark then do
    let parts ← Numeral.parts? (← ungrouped? Char.isDigit chars)
    if parts.isStrict then some (realNumber negative parts) else none
  else if rest.head? = some '_' ∨ rest.isEmpty then
    if chars.isEmpty ∨ chars.head? = some '0' ∧ 1 < chars.length then none
    else (ungrouped? isHexDigit chars).map (wholeNumber negative)
  else none

def number? (chars : List Char) : Option Value :=
  match chars with
  | '0' :: 'x' :: digits => naturalIn? 16 digits
  | '0' :: 'o' :: digits => naturalIn? 8 digits
  | '0' :: 'b' :: digits => naturalIn? 2 digits
  | chars =>
      let (negative, unsigned) := Numeral.splitSign chars
      if unsigned = ['i', 'n', 'f'] then some (.real (some (.infinite negative)))
      else if unsigned = ['n', 'a', 'n'] then some (.real (some (.notANumber negative)))
      else decimal? negative unsigned

/-- The value that an unquoted text denotes. -/
def ofUnquoted? (chars : List Char) : Option Value :=
  if chars = ['t', 'r', 'u', 'e'] then some (.bool true)
  else if chars = ['f', 'a', 'l', 's', 'e'] then some (.bool false)
  else (number? chars).or ((Moment.ofChars? chars).map .moment)

end EntityQuery.Toml

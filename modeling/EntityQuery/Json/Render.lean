import EntityQuery.Json.Value
import EntityQuery.Number.Decimal
import EntityQuery.Text.Hexadecimal

/-!
# Compact JSON text

The text of a value inside a message, and of a value bound as text or JSON: no spaces, entries in
their order, and only quotes, backslashes and control characters escaped.
-/

namespace EntityQuery.Json

/-- Numbers with more places than this before the point are written with an exponent. -/
def mostWholePlaces : Int := 16

/-- Numbers with more zeros than this between the point and the first digit are written with an
exponent. -/
def mostLeadingZeros : Int := 4

/-- Digits laid out with the point after `point` of them: positionally near the point, otherwise
one digit, the rest after a point and an always signed exponent. -/
def layout (digits : List Char) (point : Int) : List Char :=
  let count : Int := digits.length
  if count ≤ point ∧ point ≤ mostWholePlaces then
    digits ++ List.replicate (point - count).toNat '0' ++ ['.', '0']
  else if 0 < point ∧ point ≤ mostWholePlaces then
    digits.take point.toNat ++ '.' :: digits.drop point.toNat
  else if point ≤ 0 ∧ -point ≤ mostLeadingZeros then
    '0' :: '.' :: List.replicate (-point).toNat '0' ++ digits
  else
    let exponent := point - 1
    let sign := if exponent < 0 then '-' else '+'
    let fraction := digits.drop 1
    digits.take 1 ++ (if fraction.isEmpty then [] else '.' :: fraction) ++
      'e' :: sign :: Nat.toDigits 10 exponent.natAbs

/-- The text of a floating-point number: the fewest digits that read back to it. -/
def renderReal (number : Binary64) : String :=
  let body :=
    if number.magnitude = 0 then ['0', '.', '0']
    else
      let decimal := number.shortestDecimal
      let digits := Nat.toDigits 10 decimal.digits
      layout digits (decimal.exponent + digits.length)
  String.ofList (if number.negative then '-' :: body else body)

/-- The written form of one character inside a string. -/
def escape (char : Char) : List Char :=
  if char = '"' then ['\\', '"']
  else if char = '\\' then ['\\', '\\']
  else if char = '\x08' then ['\\', 'b']
  else if char = '\x0c' then ['\\', 'f']
  else if char = '\n' then ['\\', 'n']
  else if char = '\r' then ['\\', 'r']
  else if char = '\t' then ['\\', 't']
  else if char.toNat < 0x20 then
    ['\\', 'u', '0', '0', Hexadecimal.digit (char.toNat / 16),
      Hexadecimal.digit (char.toNat % 16)]
  else [char]

def renderString (text : String) : String :=
  String.ofList ('"' :: text.toList.flatMap escape ++ ['"'])

mutual

def render : Json → String
  | .null => "null"
  | .bool value => if value then "true" else "false"
  | .integer value => toString value
  | .real value => renderReal value
  | .string value => renderString value
  | .array items => "[" ++ ",".intercalate (renderItems items) ++ "]"
  | .object entries => "\x7b" ++ ",".intercalate (renderEntries entries) ++ "\x7d"

/-- The texts of the items of an array. -/
def renderItems : List Json → List String
  | [] => []
  | item :: rest => item.render :: renderItems rest

/-- The texts of the entries of an object. -/
def renderEntries : List (String × Json) → List String
  | [] => []
  | (key, value) :: rest => (renderString key ++ ":" ++ value.render) :: renderEntries rest

end

end EntityQuery.Json

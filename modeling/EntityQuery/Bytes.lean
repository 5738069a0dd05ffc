import EntityQuery.Text.Hexadecimal

/-!
# Bytes

Numbers travel with their most significant byte first, text travels as UTF-8, and bytes are
written as pairs of hexadecimal digits.
-/

namespace EntityQuery

/-- A run of bytes. -/
abbrev Bytes := List UInt8

namespace Bytes

/-- So many bytes of a natural number, the most significant first; higher bits are dropped. -/
def ofNat : Nat → Nat → Bytes
  | 0, _ => []
  | width + 1, number => ofNat width (number / 256) ++ [UInt8.ofNat (number % 256)]

/-- The natural number with the given bytes. -/
def toNat (bytes : Bytes) : Nat := bytes.foldl (fun number byte => 256 * number + byte.toNat) 0

/-- So many bytes of an integer in two's complement. -/
def ofInt (width : Nat) (number : Int) : Bytes :=
  ofNat width (number % (Nat.pow 256 width : Nat)).toNat

/-- The integer with the given bytes in two's complement. -/
def toInt (bytes : Bytes) : Int :=
  let number : Int := toNat bytes
  let range : Int := (Nat.pow 256 bytes.length : Nat)
  if 2 * number < range then number else number - range

/-- Exactly so many bytes from the front, and the rest. -/
def split? (width : Nat) (bytes : Bytes) : Option (Bytes × Bytes) :=
  if width ≤ bytes.length then some (bytes.splitAt width) else none

def ofText (text : String) : Bytes := text.toByteArray.data.toList

/-- The text with the given bytes, if they are valid UTF-8. -/
def toText? (bytes : Bytes) : Option String := String.fromUTF8? ⟨bytes.toArray⟩

def toHex (bytes : Bytes) : List Char :=
  bytes.flatMap fun byte =>
    [Hexadecimal.digit (byte.toNat / 16), Hexadecimal.digit (byte.toNat % 16)]

/-- The bytes with the given hexadecimal digits. -/
def ofHex? : List Char → Option Bytes
  | [] => some []
  | [_] => none
  | high :: low :: rest => do
      let upper ← Hexadecimal.value? high
      let lower ← Hexadecimal.value? low
      let bytes ← ofHex? rest
      return UInt8.ofNat (16 * upper + lower) :: bytes

end Bytes

end EntityQuery

import EntityQuery.Bytes
import EntityQuery.Calendar.Reader
import EntityQuery.Postgres.ServerType
import EntityQuery.Postgres.Uuid

/-!
# Encoding parameters

A JSON value is encoded by the type that the server expects.  Null is no bytes at all; arrays are
encoded item by item; text types take any value, as its compact JSON text if it is no string.
-/

namespace EntityQuery.Postgres

/-- The whole number of 64 bits that a value denotes. -/
def wholeNumber? : Json → Option Int
  | .integer number => if Numeral.fitsSigned 64 number then some number else none
  | .string text => Numeral.signedWithin? 64 text
  | _ => none

/-- The floating-point number that a value denotes. -/
def realNumber? : Json → Option ExtendedBinary64
  | .integer number => some (Decimal.toBinary64 (number < 0) ⟨number.natAbs, 0⟩)
  | .real number => some (.finite number)
  | .string text => Numeral.real64? text
  | _ => none

def byte? : Json → Option UInt8
  | .integer number =>
      if 0 ≤ number ∧ number < 256 then some (UInt8.ofNat number.toNat) else none
  | _ => none

/-- The text of a value that is bound as text. -/
def textOf : Json → String
  | .string text => text
  | value => value.render

namespace ScalarType

/-- The fault of a value of the wrong kind. -/
def mismatch (type : ScalarType) (value : Json) : EncodeFault :=
  .mismatch value (.plain (.scalar type))

/-- The result of reading a value, which is of the wrong kind if there is none. -/
def expect {α : Type} (type : ScalarType) (value : Json) : Option α → Except EncodeFault α
  | some result => .ok result
  | none => .error (type.mismatch value)

/-- A whole number in so many bytes, which has to lie between the bounds. -/
def encodeWhole (type : ScalarType) (width : Nat) (least greatest : Int) (value : Json) :
    Except EncodeFault Bytes := do
  let number ← type.expect value (wholeNumber? value)
  if least ≤ number ∧ number ≤ greatest then return Bytes.ofInt width number
  else throw (.outOfRange type)

/-- A text that has to read as the type. -/
def encodeRead (type : ScalarType) (read? : String → Option Bytes) (value : Json) :
    Except EncodeFault Bytes := do
  let text ← type.expect value value.string?
  match read? text with
  | some bytes => return bytes
  | none => throw (.malformed type)

/-- The version that the binary form of `jsonb` begins with. -/
def jsonbVersion : UInt8 := 1

/-- The bytes of a value that is not null. -/
def encode (type : ScalarType) (value : Json) : Except EncodeFault Bytes :=
  match type with
  | .bool => do
      let truth ← type.expect value value.bool?
      return [if truth then 1 else 0]
  | .int2 => type.encodeWhole 2 (-(Nat.pow 2 15)) (Nat.pow 2 15 - 1) value
  | .int4 => type.encodeWhole 4 (-(Nat.pow 2 31)) (Nat.pow 2 31 - 1) value
  | .int8 => type.encodeWhole 8 (-(Nat.pow 2 63)) (Nat.pow 2 63 - 1) value
  | .oid => type.encodeWhole 4 0 (Nat.pow 2 32 - 1) value
  | .float4 => do
      let number ← type.expect value (realNumber? value)
      return Bytes.ofNat 4 number.bits32
  | .float8 => do
      let number ← type.expect value (realNumber? value)
      return Bytes.ofNat 8 number.bits
  | .numeric => .error (.numeric value)
  | .text | .varchar | .bpchar | .name | .unknown => .ok (Bytes.ofText (textOf value))
  | .json => .ok (Bytes.ofText value.render)
  | .jsonb => .ok (jsonbVersion :: Bytes.ofText value.render)
  | .uuid => type.encodeRead Uuid.read? value
  | .date =>
      type.encodeRead
        (fun text => (Calendar.Date.read? text).map fun date => Bytes.ofInt 4 date.dayNumber)
        value
  | .timestamp | .timestamptz =>
      type.encodeRead
        (fun text =>
          (Calendar.Instant.read? text).map fun instant => Bytes.ofInt 8 instant.microseconds)
        value
  | .bytea =>
      match value with
      | .string content => .ok (Bytes.ofText content)
      | value => type.expect value (value.array?.bind fun items => items.mapM byte?)
  | .other _ _ => .error (type.mismatch value)

/-- The bytes of a value, or none for null. -/
def encodeNullable (type : ScalarType) (value : Json) : Except EncodeFault (Option Bytes) :=
  if value.isNull then .ok none else some <$> type.encode value

end ScalarType

/-- A cell of an array: its length and its bytes, or minus one for null. -/
def arrayCell : Option Bytes → Bytes
  | some bytes => Bytes.ofNat 4 bytes.length ++ bytes
  | none => Bytes.ofInt 4 (-1)

/-- The bytes of an array of one dimension, which counts from `lowerBound` and names the number of
its member type. -/
def encodeArray (lowerBound number : Nat) (cells : List (Option Bytes)) : Bytes :=
  Bytes.ofNat 4 1 ++ Bytes.ofNat 4 (if cells.any Option.isNone then 1 else 0) ++
    Bytes.ofNat 4 number ++ Bytes.ofNat 4 cells.length ++ Bytes.ofNat 4 lowerBound ++
    cells.flatMap arrayCell

namespace MemberType

/-- The bytes of a value that is not null. -/
def encode (type : MemberType) (value : Json) : Except EncodeFault Bytes :=
  match type, value with
  | .scalar type, value => type.encode value
  | .vector type, .array items =>
      encodeArray 0 type.member.number <$> items.mapM type.member.encodeNullable
  | type, value => .error (.mismatch value (.plain type))

/-- The bytes of a value, or none for null. -/
def encodeNullable (type : MemberType) (value : Json) : Except EncodeFault (Option Bytes) :=
  if value.isNull then .ok none else some <$> type.encode value

end MemberType

namespace ServerType

/-- The bytes of a value that is not null. -/
def encode (type : ServerType) (value : Json) : Except EncodeFault Bytes :=
  match type, value with
  | .plain type, value => type.encode value
  | .array member, .array items =>
      encodeArray 1 member.number <$> items.mapM member.encodeNullable
  | type, value => .error (.mismatch value type)

/-- The bytes of a value, or none for null. -/
def encodeNullable (type : ServerType) (value : Json) : Except EncodeFault (Option Bytes) :=
  if value.isNull then .ok none else some <$> type.encode value

end ServerType

end EntityQuery.Postgres

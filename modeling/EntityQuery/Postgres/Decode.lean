import EntityQuery.Bytes
import EntityQuery.Calendar.Instant
import EntityQuery.Error
import EntityQuery.Json.Reader
import EntityQuery.Postgres.Uuid

/-!
# Decoding columns

The bytes of a column are decoded by its type into a JSON value.  Numbers that JSON cannot hold
become null, and so do columns without bytes.
-/

namespace EntityQuery.Postgres

/-- The bytes, if there are exactly so many. -/
def exactly? (width : Nat) (bytes : Bytes) : Option Bytes :=
  if bytes.length = width then some bytes else none

/-- A truth value; every byte but zero is true. -/
def decodeBool? (bytes : Bytes) : Option Json :=
  match bytes with
  | [byte] => some (.bool (byte != 0))
  | _ => none

def decodeInt? (width : Nat) (bytes : Bytes) : Option Json :=
  (exactly? width bytes).map fun bytes => .integer (Bytes.toInt bytes)

/-- A natural number of so many bytes. -/
def decodeNat? (width : Nat) (bytes : Bytes) : Option Json :=
  (exactly? width bytes).map fun bytes => .integer (Bytes.toNat bytes)

def decodeText? (bytes : Bytes) : Option Json := (Bytes.toText? bytes).map .string

def decodeJson? (bytes : Bytes) : Option Json := (Bytes.toText? bytes).bind Json.read?

def decodeJsonb? : Bytes → Option Json
  | version :: bytes => if version = 1 then decodeJson? bytes else none
  | [] => none

/-- A date, by its number of days. -/
def decodeDate? (bytes : Bytes) : Option Json := do
  let bytes ← exactly? 4 bytes
  let date := Calendar.Date.ofDayNumber (Bytes.toInt bytes)
  if date.exists? then return .string (String.ofList date.text) else none

/-- An instant, by its number of microseconds, with a suffix. -/
def decodeInstant? (suffix : String) (bytes : Bytes) : Option Json := do
  let bytes ← exactly? 8 bytes
  let instant : Calendar.Instant := ⟨Bytes.toInt bytes⟩
  if instant.date.exists? then return .string (String.ofList instant.text ++ suffix) else none

/-- How a column that holds one value is decoded, if it can be. -/
def ScalarType.decoder? : ScalarType → Option (Bytes → Option Json)
  | .bool => some decodeBool?
  | .int2 => some (decodeInt? 2)
  | .int4 => some (decodeInt? 4)
  | .int8 => some (decodeInt? 8)
  | .oid => some (decodeNat? 4)
  | .float4 => some fun bytes =>
      (exactly? 4 bytes).map fun bytes => .ofExtended (.ofBits32 (Bytes.toNat bytes))
  | .float8 => some fun bytes =>
      (exactly? 8 bytes).map fun bytes => .ofExtended (.ofBits (Bytes.toNat bytes))
  | .text | .varchar | .bpchar | .name => some decodeText?
  | .json => some decodeJson?
  | .jsonb => some decodeJsonb?
  | .uuid => some fun bytes => (exactly? 16 bytes).map fun bytes => .string (Uuid.text bytes)
  | .date => some decodeDate?
  | .timestamp => some (decodeInstant? "")
  | .timestamptz => some (decodeInstant? "+00:00")
  | .bytea => some fun bytes => some (.array (bytes.map fun byte => .integer byte.toNat))
  | .numeric | .unknown | .other _ _ => none

/-- The member types of the arrays that can be decoded. -/
def ScalarType.decodesInArrays : ScalarType → Bool
  | .bool | .int2 | .int4 | .int8 | .float8 | .text | .varchar | .json | .jsonb => true
  | _ => false

/-- An integer of four bytes from the front. -/
def takeInt? (bytes : Bytes) : Option (Int × Bytes) :=
  (Bytes.split? 4 bytes).map fun parts => (Bytes.toInt parts.1, parts.2)

/-- So many cells of an array, which use up the bytes. -/
def decodeCells? (decode : Bytes → Option Json) : Nat → Bytes → Option (List Json)
  | 0, bytes => if bytes.isEmpty then some [] else none
  | count + 1, bytes => do
      let (length, rest) ← takeInt? bytes
      if length < 0 then return .null :: (← decodeCells? decode count rest)
      else
        let (cell, rest) ← Bytes.split? length.toNat rest
        let item ← decode cell
        return item :: (← decodeCells? decode count rest)

/-- An array of no dimension, which is empty, or of one.  What the array says about nulls, the type
of its members and its lower bound is not used. -/
def decodeArray? (decode : Bytes → Option Json) (bytes : Bytes) : Option Json := do
  let (dimensions, rest) ← takeInt? bytes
  let (_, rest) ← Bytes.split? 8 rest
  if dimensions = 0 then return .array (← decodeCells? decode 0 rest)
  else if dimensions = 1 then
    let (length, rest) ← takeInt? rest
    let (_, rest) ← Bytes.split? 4 rest
    if length < 0 then none
    else return .array (← decodeCells? decode length.toNat rest)
  else none

/-- How a column of a type is decoded, if it can be. -/
def ServerType.decoder? : ServerType → Option (Bytes → Option Json)
  | .plain (.scalar type) => type.decoder?
  | .array (.scalar member) =>
      if member.decodesInArrays then member.decoder?.map decodeArray? else none
  | _ => none

/-- A column of a result. -/
structure ResultColumn where
  name : String
  type : ServerType

/-- The value of a column at a position. -/
def ResultColumn.decode (column : ResultColumn) (position : Nat) (cell : Option Bytes) :
    Except Error Json :=
  if column.type = .plain (.scalar .numeric) then .error (.decode column.name .numericColumn)
  else
    match column.type.decoder?, cell with
    | none, _ => .error (.decode column.name (.unsupportedType column.type))
    | some _, none => .ok .null
    | some decode, some bytes =>
        match decode bytes with
        | some value => .ok value
        | none => .error (.decode column.name (.malformed position))

/-- The values of a row, column by column. -/
def decodeRow (columns : List ResultColumn) (cells : List (Option Bytes)) :
    Except Error (List Json) :=
  (columns.zip cells).zipIdx.mapM fun entry => entry.1.1.decode entry.2 entry.1.2

end EntityQuery.Postgres

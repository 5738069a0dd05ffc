import EntityQuery.Bytes

/-!
# Universally unique identifiers

Sixteen bytes, written as hexadecimal digits in groups of eight, four, four, four and twelve.  They
are also read without dashes, in braces, or as a uniform resource name, whose beginning may have
letters of any case.
-/

namespace EntityQuery.Postgres.Uuid

/-- The bytes of a text of 32 digits. -/
def plain? (chars : List Char) : Option Bytes :=
  if chars.length = 32 then Bytes.ofHex? chars else none

/-- The bytes of a text of 32 digits with dashes between the groups. -/
def dashed? (chars : List Char) : Option Bytes :=
  let isDash (position : Nat) : Bool := [8, 13, 18, 23].contains position
  if chars.length = 36 ∧ chars.zipIdx.all fun entry => (entry.1 == '-') == isDash entry.2 then
    plain? (chars.filter (· != '-'))
  else none

/-- What a uniform resource name begins with. -/
def resourceName : List Char := "urn:uuid:".toList

def read? (text : String) : Option Bytes :=
  let chars := text.toList
  match chars with
  | '\x7b' :: rest => if rest.getLast? = some '\x7d' then dashed? rest.dropLast else none
  | _ =>
      if resourceName.isPrefixOf (chars.map Char.toLower) then
        dashed? (chars.drop resourceName.length)
      else (plain? chars).or (dashed? chars)

def text (bytes : Bytes) : String :=
  let digits := Bytes.toHex bytes
  let group (start length : Nat) : List Char := (digits.drop start).take length
  String.ofList (['-'].intercalate
    [group 0 8, group 8 4, group 12 4, group 16 4, group 20 12])

end EntityQuery.Postgres.Uuid

import EntityQuery.Number.Binary

/-!
# JSON values

Bound parameters, option values and returned columns are JSON values.  Objects keep the order in
which their keys first arrived, so an object is a list of entries.  Whole numbers and numbers with
a fraction are different values, and a number with a fraction is always finite.
-/

namespace EntityQuery

/-- A JSON value. -/
inductive Json
  | null
  | bool (value : Bool)
  | integer (value : Int)
  | real (value : Binary64)
  | string (value : String)
  | array (items : List Json)
  | object (entries : List (String × Json))
  deriving Inhabited

namespace Json

/-- A floating-point value as JSON; infinities and what is no number become null. -/
def ofExtended : ExtendedBinary64 → Json
  | .finite number => .real number
  | _ => .null

def isNull : Json → Bool
  | .null => true
  | _ => false

theorem isNull_iff {value : Json} : value.isNull ↔ value = .null := by
  cases value <;> simp [isNull]

/-- The truth value, when the JSON value is one. -/
def bool? : Json → Option Bool
  | .bool value => some value
  | _ => none

/-- The whole number, when the JSON value is one. -/
def integer? : Json → Option Int
  | .integer value => some value
  | _ => none

/-- The text, when the JSON value is one. -/
def string? : Json → Option String
  | .string value => some value
  | _ => none

/-- The items, when the JSON value is an array. -/
def array? : Json → Option (List Json)
  | .array items => some items
  | _ => none

end Json

/-- Named values in order of first arrival: a row to store, a returned row, or the entries of a
JSON object. -/
abbrev Record := List (String × Json)

namespace Record

def keys (record : Record) : List String := record.map Prod.fst

def find? (record : Record) (key : String) : Option Json := record.lookup key

def has (record : Record) (key : String) : Bool := (find? record key).isSome

/-- Put a value under a name: in place when the name is present, else at the end. -/
def insert (record : Record) (key : String) (value : Json) : Record :=
  match record with
  | [] => [(key, value)]
  | (present, held) :: rest =>
      if present = key then (key, value) :: rest
      else (present, held) :: insert rest key value

def erase (record : Record) (key : String) : Record :=
  record.filter fun entry => entry.1 != key

end Record

end EntityQuery

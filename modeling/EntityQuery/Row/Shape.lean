import EntityQuery.Error
import EntityQuery.Number.Numeral

/-!
# Shapes of values

A caller states the shape that a record or one of its fields is expected to have.  Reading a value
by a shape checks it and brings it into the form of the shape: entries that the shape does not name
are left out, and optional entries that are missing are null.
-/

namespace EntityQuery

/-- What a value is expected to be. -/
inductive Shape
  | any
  | truth
  | text
  /-- A whole number of so many bits in two's complement. -/
  | signed (bits : Nat)
  /-- A natural number of so many bits. -/
  | unsigned (bits : Nat)
  | optional (shape : Shape)
  | list (shape : Shape)
  /-- Named entries of an object, or as many items of a list in the same order. -/
  | fields (shapes : List (String × Shape))

namespace Shape

/-- Whether an entry of the shape may be missing. -/
def isOptional : Shape → Bool
  | .optional _ => true
  | _ => false

/-- The value that a reader finds, or the fault that it is of the wrong kind. -/
def expect (expected : String) (value : Json) : Option Json → Except ShapeFault Json
  | some found => .ok found
  | none => .error (.wrongKind value expected)

/-- A whole number for which a test holds. -/
def readWhole (expected : String) (fits : Int → Bool) : Json → Except ShapeFault Json
  | .integer number =>
      if fits number then .ok (.integer number) else .error (.outOfRange number expected)
  | value => .error (.wrongKind value expected)

/-- The entries of an object in the order of their shapes, from those that have been read.  Missing
entries that are optional are null. -/
def complete (shapes : List (String × Shape)) (found : Record) : Except ShapeFault Record :=
  shapes.mapM fun entry =>
    match Record.find? found entry.1 with
    | some value => .ok (entry.1, value)
    | none => if entry.2.isOptional then .ok (entry.1, .null) else .error (.missingEntry entry.1)

mutual

/-- The value in the form of a shape, if it has the shape. -/
def read : Shape → Json → Except ShapeFault Json
  | .any, value => .ok value
  | .truth, value => expect "a boolean" value (value.bool?.map .bool)
  | .text, value => expect "a string" value (value.string?.map .string)
  | .signed bits, value => readWhole ("i" ++ toString bits) (Numeral.fitsSigned bits) value
  | .unsigned bits, value =>
      readWhole ("u" ++ toString bits)
        (fun number => 0 ≤ number && number < Nat.pow 2 bits) value
  | .optional shape, value => if value.isNull then .ok .null else shape.read value
  | .list shape, .array items => .array <$> items.mapM fun item => shape.read item
  | .list _, value => .error (.wrongKind value "a sequence")
  | .fields shapes, .object entries => do
      let found ← entries.mapM fun entry => readEntry shapes entry
      return .object (← complete shapes (found.filterMap id))
  | .fields shapes, .array items => do
      if items.length = shapes.length then return .object (← readItems shapes items)
      else throw (.wrongLength items.length)
  | .fields _, value => .error (.wrongKind value "a record")

/-- An entry of an object, if there is a shape of its name. -/
def readEntry : List (String × Shape) → String × Json →
    Except ShapeFault (Option (String × Json))
  | [], _ => .ok none
  | (name, shape) :: rest, entry =>
      if name = entry.1 then return some (name, ← shape.read entry.2) else readEntry rest entry

/-- The items of a list under the names of their shapes. -/
def readItems : List (String × Shape) → List Json → Except ShapeFault Record
  | (name, shape) :: rest, item :: items => do
      let value ← shape.read item
      let others ← readItems rest items
      return (name, value) :: others
  | _, _ => .ok []

end

end Shape

namespace Record

/-- The field of a record, read by a shape. -/
def readField (record : Record) (field : String) (shape : Shape) : Except Error Json :=
  match find? record field with
  | none => .error (.decode field .missingField)
  | some value =>
      match shape.read value with
      | .ok read => .ok read
      | .error fault => .error (.decode field (.shape fault))

/-- The whole record, read by a shape. -/
def read (record : Record) (shape : Shape) : Except Error Json :=
  match shape.read (.object record) with
  | .ok read => .ok read
  | .error fault => .error (.serialization fault)

end Record

end EntityQuery

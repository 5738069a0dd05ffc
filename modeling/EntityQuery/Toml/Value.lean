import EntityQuery.Json.Value
import EntityQuery.Toml.Moment

/-!
# TOML values

A table remembers how it was written, because that decides what may still be added to it: a table
inside a value is complete, while a table that arose from a dotted key or from the header of a
table inside it can grow.  The entries of a table are kept in the order of their keys.  A number may
turn out to have no value; that only matters to those who ask for it.
-/

namespace EntityQuery.Toml

/-- How a table was written. -/
inductive Origin
  /-- In braces, as a value. -/
  | inline
  /-- By the dotted keys of its entries. -/
  | dotted
  /-- By the headers of tables inside it. -/
  | implied
  /-- By its own header. -/
  | declared
  deriving DecidableEq

/-- A TOML value. -/
inductive Value
  | text (content : String)
  /-- A whole number, unless it is out of range or holds other characters than digits. -/
  | integer (value? : Option Int)
  /-- A number with a fraction or an exponent, unless it is too large. -/
  | real (value? : Option ExtendedBinary64)
  | bool (value : Bool)
  | moment (instant : Moment)
  | array (items : List Value)
  | table (origin : Origin) (entries : List (String × Value))
  /-- Tables that were given one by one under headers of the same name. -/
  | elements (earlier : List (List (String × Value))) (last : List (String × Value))

/-- Named values in the order of their names. -/
abbrev Table := List (String × Value)

namespace Table

def find? (table : Table) (key : String) : Option Value := table.lookup key

/-- Put a value under a key, in place of the one that is there. -/
def put (key : String) (value : Value) : Table → Table
  | [] => [(key, value)]
  | (present, held) :: rest =>
      if key < present then (key, value) :: (present, held) :: rest
      else if present = key then (key, value) :: rest
      else (present, held) :: put key value rest

/-- Add the value of a dotted key.  Its last part must be new; the parts before it lead through
tables that dotted keys may extend, down to one that was itself written by dotted keys. -/
def assign (value : Value) : List String → Table → Option Table
  | [], _ => none
  | [key], table =>
      match table.find? key with
      | none => some (table.put key value)
      | some _ => none
  | key :: next :: rest, table =>
      match table.find? key with
      | none =>
          (assign value (next :: rest) []).map fun inner => table.put key (.table .dotted inner)
      | some (.table .dotted inner) =>
          (assign value (next :: rest) inner).map fun inner => table.put key (.table .dotted inner)
      | some (.table .implied inner) =>
          if rest.isEmpty then none
          else
            (assign value (next :: rest) inner).map fun inner =>
              table.put key (.table .implied inner)
      | some (.elements earlier last) =>
          if rest.isEmpty then none
          else
            (assign value (next :: rest) last).map fun last =>
              table.put key (.elements earlier last)
      | some _ => none

/-- Change the table that a header path leads to.  The path goes through tables and through the
last of several elements; tables that are missing on the way are added. -/
def within (change : Table → Option Table) : List String → Table → Option Table
  | [], table => change table
  | key :: rest, table =>
      match table.find? key with
      | none => (within change rest []).map fun inner => table.put key (.table .implied inner)
      | some (.table .inline _) => none
      | some (.table origin inner) =>
          (within change rest inner).map fun inner => table.put key (.table origin inner)
      | some (.elements earlier last) =>
          (within change rest last).map fun last => table.put key (.elements earlier last)
      | some _ => none

/-- Add a table by its own header, or take over one that so far is only implied. -/
def declare (key : String) (table : Table) : Option Table :=
  match table.find? key with
  | none => some (table.put key (.table .declared []))
  | some (.table .implied inner) => some (table.put key (.table .declared inner))
  | some _ => none

/-- Add one more element under a key. -/
def addElement (key : String) (table : Table) : Option Table :=
  match table.find? key with
  | none => some (table.put key (.elements [] []))
  | some (.elements earlier last) => some (table.put key (.elements (earlier ++ [last]) []))
  | some _ => none

end Table

namespace Value

/-- The text, when the value is one. -/
def text? : Value → Option String
  | .text content => some content
  | _ => none

/-- The truth value, when the value is one. -/
def bool? : Value → Option Bool
  | .bool value => some value
  | _ => none

/-- The entries, when the value is a table. -/
def table? : Value → Option Table
  | .table _ entries => some entries
  | _ => none

/-- The items, when the value is an array or several elements. -/
def items? : Value → Option (List Value)
  | .array items => some items
  | .elements earlier last => some ((earlier ++ [last]).map (.table .declared))
  | _ => none

/-- The name under which the text of a moment stands in JSON. -/
def momentName : String := "$__toml_private_datetime"

mutual

/-- The value as JSON, if every number in it has a value.  Infinities and what is no number become
null, and a moment becomes an object that holds its text under a reserved name. -/
def toJson? : Value → Option Json
  | .text content => some (.string content)
  | .integer value? => value?.map .integer
  | .real value? => value?.map .ofExtended
  | .bool value => some (.bool value)
  | .moment instant => some (.object [(momentName, .string (String.ofList instant.text))])
  | .array items => (itemsToJson? items).map .array
  | .table _ entries => (entriesToJson? entries).map .object
  | .elements earlier last => do
      return .array ((← tablesToJson? earlier) ++ [.object (← entriesToJson? last)])

/-- The items of an array as JSON. -/
def itemsToJson? : List Value → Option (List Json)
  | [] => some []
  | item :: rest => do return (← item.toJson?) :: (← itemsToJson? rest)

/-- The entries of a table as JSON. -/
def entriesToJson? : List (String × Value) → Option (List (String × Json))
  | [] => some []
  | (key, value) :: rest => do return (key, ← value.toJson?) :: (← entriesToJson? rest)

def tablesToJson? : List (List (String × Value)) → Option (List Json)
  | [] => some []
  | entries :: rest => do return .object (← entriesToJson? entries) :: (← tablesToJson? rest)

end

end Value

end EntityQuery.Toml

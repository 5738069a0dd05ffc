import EntityQuery.Error
import EntityQuery.Text.Split

/-!
# Returned rows

A connection returns rows by position or by name.  A row is zipped with the aliases of its
statement into a record.  Aliases with a dot belong to a join: what follows the first dot is the
name inside a nested object, and an object of nothing but nulls, which an unmatched outer join
gives, becomes null.
-/

namespace EntityQuery

/-- A row as a connection returns it. -/
inductive Row
  /-- Values in the order of the columns. -/
  | positional (values : List Json)
  /-- Values under the number of a column or under its alias. -/
  | keyed (columns : Record)

namespace Row

/-- Take the value of a column out of a keyed row: the one under its number, else the one under
its alias. -/
def takeColumn? (columns : Record) (position : Nat) (columnAlias : String) :
    Option (Json × Record) :=
  match Record.find? columns (toString position) with
  | some value => some (value, Record.erase columns (toString position))
  | none =>
      (Record.find? columns columnAlias).map fun value =>
        (value, Record.erase columns columnAlias)

/-- The values of a keyed row, from the column at a position on. -/
def keyedValues (columns : Record) (position : Nat) : List String → Except Error (List Json)
  | [] => .ok []
  | columnAlias :: rest =>
      match takeColumn? columns position columnAlias with
      | some (value, others) => (value :: ·) <$> keyedValues others (position + 1) rest
      | none => .error (.decode columnAlias .missingColumn)

/-- The values of a row for the aliases of its columns. -/
def values (row : Row) (aliases : List String) : Except Error (List Json) :=
  match row with
  | .positional values =>
      match aliases[values.length]? with
      | none => .ok values
      | some columnAlias =>
          .error (.decode columnAlias (.shortRow values.length aliases.length))
  | .keyed columns => keyedValues columns 0 aliases

/-- The name of a join and the name inside it, for an alias with a dot. -/
def splitAlias (columnAlias : String) : Option (String × String) :=
  Text.splitFirst? '.' columnAlias

/-- A record that is being put together, and the joins that have been met. -/
structure Nesting where
  record : Record
  joins : List String

namespace Nesting

def empty : Nesting := ⟨[], []⟩

/-- The objects that have been put together so far with a join among them. -/
def meet (nesting : Nesting) (join : String) : List String :=
  if nesting.joins.contains join then nesting.joins else nesting.joins ++ [join]

/-- Add the value of a column inside a join. -/
def addJoined (nesting : Nesting) (columnAlias join name : String) (value : Json) :
    Except Error Nesting :=
  let nested (entries : Record) : Nesting :=
    ⟨Record.insert nesting.record join (.object (Record.insert entries name value)),
      nesting.meet join⟩
  match Record.find? nesting.record join with
  | none => .ok (nested [])
  | some (.object entries) => .ok (nested entries)
  | some _ => .error (.decode columnAlias (.joinConflict join))

def add (nesting : Nesting) (column : String × Json) : Except Error Nesting :=
  match splitAlias column.1 with
  | some (join, name) => nesting.addJoined column.1 join name column.2
  | none =>
      if nesting.joins.contains column.1 then
        .error (.decode column.1 (.joinConflict column.1))
      else .ok { nesting with record := Record.insert nesting.record column.1 column.2 }

/-- The value of a join: null if it has nothing but nulls. -/
def settle : Json → Json
  | .object entries => if entries.all fun entry => entry.2.isNull then .null else .object entries
  | value => value

def finish (nesting : Nesting) : Record :=
  nesting.record.map fun entry =>
    if nesting.joins.contains entry.1 then (entry.1, settle entry.2) else entry

end Nesting

/-- Zip a row with the aliases of its columns; values beyond the last alias are left out. -/
def unzip (row : Row) (aliases : List String) : Except Error Record := do
  let values ← row.values aliases
  let nesting ← (aliases.zip values).foldlM Nesting.add Nesting.empty
  return nesting.finish

end Row

end EntityQuery

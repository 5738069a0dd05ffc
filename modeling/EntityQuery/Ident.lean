/-!
# SQL identifiers

Names of tables, columns, schemas and aliases.  A name of ASCII letters, digits, underscores and
dollar signs that does not start with a digit or a dollar sign is written as it is; every other
name is written between double quotes, with each quote inside written twice.
-/

namespace EntityQuery

/-- Why a name is no identifier. -/
inductive IdentFault
  | empty
  | nul
  deriving DecidableEq

def IdentFault.message : IdentFault → String
  | .empty => "Identifier cannot be empty"
  | .nul => "Identifier cannot contain NUL character"

/-- The name of one SQL object, without any dotted path. -/
structure Ident where
  name : String
  notEmpty : name.toList ≠ []
  withoutNul : '\x00' ∉ name.toList
  deriving DecidableEq

namespace Ident

/-- The identifier with a name, unless the name is empty or contains NUL. -/
def ofName (name : String) : Except IdentFault Ident :=
  if empty : name.toList = [] then .error .empty
  else if nul : '\x00' ∈ name.toList then .error .nul
  else .ok ⟨name, empty, nul⟩

/-- ASCII characters that may start an unquoted name. -/
def isPlainStart (char : Char) : Bool := char == '_' || char.isAlpha

/-- ASCII characters that may continue an unquoted name. -/
def isPlainChar (char : Char) : Bool := char == '_' || char == '$' || char.isAlphanum

/-- Whether a name is written without quotes. -/
def isPlainName : List Char → Bool
  | [] => false
  | first :: rest => isPlainStart first && rest.all isPlainChar

/-- Whether the identifier is written without quotes. -/
def isPlain (ident : Ident) : Bool := isPlainName ident.name.toList

/-- The written form of a character between quotes. -/
def quoteChar (char : Char) : List Char := if char = '"' then ['"', '"'] else [char]

def quoted (chars : List Char) : List Char := '"' :: chars.flatMap quoteChar ++ ['"']

def toSql (ident : Ident) : String :=
  if ident.isPlain then ident.name else String.ofList (quoted ident.name.toList)

def qualified (qualifier name : Ident) : String := qualifier.toSql ++ "." ++ name.toSql

end Ident

end EntityQuery

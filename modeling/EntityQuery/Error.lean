import EntityQuery.Ident
import EntityQuery.Operator
import EntityQuery.Statement
import EntityQuery.Postgres.ServerType
import EntityQuery.Text.Quoted

/-!
# Errors

An error says what went wrong by its cause; its words are written in one place, `Error.messageBy`.
Errors raised while a statement is built are configuration errors: trying again cannot help.
Faults given in words come from connections and callers with causes of their own.
-/

namespace EntityQuery

/-- What a statement does with rows. -/
inductive Verb
  | fetch
  | insert
  | update
  | delete
  deriving DecidableEq

namespace Verb

def name : Verb → String
  | .fetch => "fetch"
  | .insert => "insert"
  | .update => "update"
  | .delete => "delete"

def pastName : Verb → String
  | .fetch => "fetched"
  | .insert => "inserted"
  | .update => "updated"
  | .delete => "deleted"

end Verb

/-- What the value of an option was expected to be. -/
inductive OptionKind
  | fieldNames
  | fieldValues
  | text
  | texts
  | integer
  | boolean
  deriving DecidableEq

def OptionKind.message : OptionKind → String
  | .fieldNames => "expected field names"
  | .fieldValues => "expected an object of field values"
  | .text => "expected a string"
  | .texts => "expected a string or list of strings"
  | .integer => "expected an integer"
  | .boolean => "expected a boolean"

/-- Why an identifier could not be used, in the words of a validation error. -/
def IdentFault.validationMessage (fault : IdentFault) : String :=
  "Validation error: " ++ fault.message

/-- What is wrong with the value of an option. -/
inductive OptionFault
  | expected (kind : OptionKind) (got : Json)
  | direction (got : Json)
  | aliasSource (name : String) (got : Json)
  | nestedArrays
  | notPositive
  | columnAlias (entity : String) (fault : IdentFault)
  | stated (text : String)

def OptionFault.message : OptionFault → String
  | .expected kind got => kind.message ++ ", got " ++ got.render
  | .direction got => "invalid direction " ++ got.render
  | .aliasSource name got =>
      "alias `" ++ name ++ "` must name a field, got " ++ got.render
  | .nestedArrays => "nested arrays"
  | .notPositive => "must be a positive integer"
  | .columnAlias entity fault => entity ++ ": " ++ fault.validationMessage
  | .stated text => text

/-- What is wrong with the definition of a field. -/
inductive FieldFault
  | emptyName
  | column (fault : IdentFault)
  | missingType
  | unknownType (name : String)
  | malformedReference (text : String)
  | unknownEntity (name : String)
  | unknownTarget (entity field : String)
  | stated (text : String)

def FieldFault.message : FieldFault → String
  | .emptyName => "empty field name"
  | .column fault => fault.validationMessage
  | .missingType => "missing type"
  | .unknownType name => "invalid type `" ++ name ++ "`"
  | .malformedReference text => "references `" ++ text ++ "` is not `Entity.field`"
  | .unknownEntity name => "references unknown entity `" ++ name ++ "`"
  | .unknownTarget entity field => "references unknown field `" ++ entity ++ "." ++ field ++ "`"
  | .stated text => text

/-- Why operator, target and value do not make a condition. -/
inductive ConditionFault
  | unknownOperator (tag : String)
  | missingTarget (operator : Operator)
  | unexpectedTarget (operator : Operator)
  | missingValue (operator : Operator)
  | unexpectedValue (operator : Operator)
  | stated (text : String)

def ConditionFault.message : ConditionFault → String
  | .unknownOperator tag => "unknown operator `" ++ tag ++ "`"
  | .missingTarget operator => "`" ++ operator.tag ++ "` requires a field"
  | .unexpectedTarget operator => "`" ++ operator.tag ++ "` does not take a field"
  | .missingValue operator => "`" ++ operator.tag ++ "` requires a value"
  | .unexpectedValue operator => "`" ++ operator.tag ++ "` does not take a value"
  | .stated text => text

/-- The parts of entities and queries that are named by identifiers. -/
inductive NameRole
  | table
  | schema
  | queryAlias
  | joinAlias
  deriving DecidableEq

def NameRole.name : NameRole → String
  | .table => "table"
  | .schema => "schema"
  | .queryAlias => "alias"
  | .joinAlias => "join alias"

/-- Why rows cannot be written. -/
inductive RowsFault
  | nothingToInsert
  | noKnownFields
  | nothingToUpdate
  | noFieldsToUpdate
  | noPrimaryKey
  | missingKey (field : String)
  deriving DecidableEq

def RowsFault.message : RowsFault → String
  | .nothingToInsert => "no rows to insert"
  | .noKnownFields => "no known fields to insert"
  | .nothingToUpdate => "no records to update"
  | .noFieldsToUpdate => "no fields to update"
  | .noPrimaryKey => "batch update needs a primary key"
  | .missingKey field => "batch update records must carry `" ++ field ++ "`"

/-- Why a name, a statement or rows are not valid. -/
inductive ValidationFault
  | identifier (fault : IdentFault)
  | name (entity : String) (role : NameRole) (fault : IdentFault)
  | emptyEntityName
  | misaligned (placeholders values : Nat)
  | rows (entity : String) (fault : RowsFault)
  | stated (text : String)

def ValidationFault.message : ValidationFault → String
  | .identifier fault => fault.message
  | .name entity role fault => entity ++ ": " ++ role.name ++ ": " ++ fault.validationMessage
  | .emptyEntityName => "entity name cannot be empty"
  | .misaligned placeholders values =>
      "statement has " ++ toString placeholders ++ " placeholders but " ++ toString values ++
        " values"
  | .rows entity fault => entity ++ ": " ++ fault.message
  | .stated text => text

/-- The words for a naming strategy that does not exist. -/
def unknownNamingMessage (strategy : String) : String :=
  "unknown naming strategy `" ++ strategy ++ "`"

/-- What is wrong with a schema, a registry or the way entities are joined. -/
inductive ConfigFault
  | duplicateEntity (name : String)
  | unknownEntity (name : String)
  | unknownParent (entity parent : String)
  | unknownNaming (entity strategy : String)
  | noReference (owner joined : String)
  | invalidSchema
  | missingFile (path : String)
  | stated (text : String)

def ConfigFault.message : ConfigFault → String
  | .duplicateEntity name => "entity `" ++ name ++ "` is already registered"
  | .unknownEntity name => "unknown entity `" ++ name ++ "`"
  | .unknownParent entity parent => entity ++ ": extends unknown entity `" ++ parent ++ "`"
  | .unknownNaming entity strategy => entity ++ ": " ++ unknownNamingMessage strategy
  | .noReference owner joined => owner ++ ": no reference to join `" ++ joined ++ "` on"
  | .invalidSchema => "invalid schema"
  | .missingFile path =>
      "failed to read schema " ++ path ++ ": No such file or directory (os error 2)"
  | .stated text => text

/-- Why a statement could not be sent or was refused. -/
inductive QueryFault
  /-- The text of the statement holds a null character. -/
  | unsendable
  | parameterCount (expected got : Nat)
  | parameter (index : Nat) (fault : Postgres.EncodeFault)
  | refused (code text : String)
  | stated (text : String)

/-- The fault in words; the reason for a refused parameter or statement is not part of them. -/
def QueryFault.message : QueryFault → String
  | .unsendable => "error encoding message to server"
  | .parameterCount expected got =>
      "expected " ++ toString expected ++ " parameters but got " ++ toString got
  | .parameter index _ => "error serializing parameter " ++ toString index
  | .refused _ _ => "db error"
  | .stated text => text

/-- A value by its kind, in the words of a message. -/
def kindText : Json → String
  | .null => "null"
  | .bool value => "boolean `" ++ (Json.bool value).render ++ "`"
  | .integer value => "integer `" ++ toString value ++ "`"
  | .real value => "floating point `" ++ Json.renderReal value ++ "`"
  | .string value => "string " ++ Text.quoted value
  | .array _ => "sequence"
  | .object _ => "map"

/-- Why a value does not have the shape that is expected of it. -/
inductive ShapeFault
  | wrongKind (got : Json) (expected : String)
  | outOfRange (got : Int) (expected : String)
  | missingEntry (name : String)
  | wrongLength (length : Nat)
  | stated (text : String)

def ShapeFault.message : ShapeFault → String
  | .wrongKind got expected => "invalid type: " ++ kindText got ++ ", expected " ++ expected
  | .outOfRange got expected =>
      "invalid value: " ++ kindText (.integer got) ++ ", expected " ++ expected
  | .missingEntry name => "missing field `" ++ name ++ "`"
  | .wrongLength length => "invalid length " ++ toString length
  | .stated text => text

/-- Why a returned row or column cannot be read. -/
inductive DecodeFault
  | shortRow (columns expected : Nat)
  | missingColumn
  | joinConflict (join : String)
  | missingField
  | shape (fault : ShapeFault)
  | count (got : Json)
  | malformed (index : Nat)
  | unsupportedType (type : Postgres.ServerType)
  | numericColumn
  | stated (text : String)

def DecodeFault.message : DecodeFault → String
  | .shortRow columns expected =>
      "row has " ++ toString columns ++ " columns, expected " ++ toString expected
  | .missingColumn => "column missing from row"
  | .joinConflict join => "`" ++ join ++ "` names both a column and a join"
  | .missingField => "missing field"
  | .shape fault => fault.message
  | .count got => "expected a count, got " ++ got.render
  | .malformed index => "error deserializing column " ++ toString index
  | .unsupportedType type => "unsupported column type " ++ type.typeName
  | .numericColumn => "numeric columns need the `rust_decimal` feature"
  | .stated text => text

/-- An error. -/
inductive Error
  | unknownOption (name : String)
  | invalidOption (option : String) (fault : OptionFault)
  | unknownField (entity field : String)
  | invalidField (entity field : String) (fault : FieldFault)
  | invalidCondition (fault : ConditionFault)
  | missingTable (entity : String)
  | validation (fault : ValidationFault)
  | config (fault : ConfigFault)
  | execute (verb : Verb) (entity : String) (statement : FailedStatement) (source : Error)
  | noRows (verb : Verb) (entity : String)
  | rollback (first second : Error)
  | query (fault : QueryFault)
  | decode (column : String) (fault : DecodeFault)
  | serialization (fault : ShapeFault)
  | other (text : String)

namespace Error

/-- The error in words, with the driver's words for what is wrong with a query. -/
def messageBy (words : QueryFault → String) : Error → String
  | .unknownOption name => "unknown query option `" ++ name ++ "`"
  | .invalidOption option fault =>
      "invalid value for query option `" ++ option ++ "`: " ++ fault.message
  | .unknownField entity field => entity ++ ": unknown field `" ++ field ++ "`"
  | .invalidField entity field fault =>
      entity ++ ": invalid field `" ++ field ++ "`: " ++ fault.message
  | .invalidCondition fault => "invalid condition: " ++ fault.message
  | .missingTable entity => entity ++ ": no table configured"
  | .validation fault => "Validation error: " ++ fault.message
  | .config fault => "Configuration error: " ++ fault.message
  | .execute verb entity statement source =>
      entity ++ ": " ++ verb.name ++ " failed: " ++ source.messageBy words ++ " (" ++
        statement.message ++ ")"
  | .noRows verb entity => entity ++ ": no rows " ++ verb.pastName
  | .rollback first second =>
      first.messageBy words ++ " (rollback failed: " ++ second.messageBy words ++ ")"
  | .query fault => "Query error: " ++ words fault
  | .decode column fault => "Decode error on column '" ++ column ++ "': " ++ fault.message
  | .serialization fault => "Serialization error: " ++ fault.message
  | .other text => text

def message (error : Error) : String := error.messageBy QueryFault.message

/-- The name of the kind of error. -/
def kind : Error → String
  | .unknownOption _ => "UnknownOption"
  | .invalidOption _ _ => "InvalidOption"
  | .unknownField _ _ => "UnknownField"
  | .invalidField _ _ _ => "InvalidField"
  | .invalidCondition _ => "InvalidCondition"
  | .missingTable _ => "MissingTable"
  | .validation _ => "Validation"
  | .config _ => "Config"
  | .execute _ _ _ _ => "Execute"
  | .noRows _ _ => "NoRows"
  | .rollback _ _ => "Rollback"
  | .query _ => "Query"
  | .decode _ _ => "Decode"
  | .serialization _ => "Serialization"
  | .other _ => "Other"

/-- Whether the error was raised by what the statement was built from. -/
def isConfiguration : Error → Bool
  | .unknownOption _ | .invalidOption _ _ | .unknownField _ _ | .invalidField _ _ _
  | .invalidCondition _ | .missingTable _ | .config _ => true
  | _ => false

/-- Whether the error says that required rows are missing. -/
def isNoRows : Error → Bool
  | .noRows _ _ => true
  | _ => false

/-- What the failed statement was to do. -/
def verb? : Error → Option Verb
  | .execute verb _ _ _ | .noRows verb _ => some verb
  | _ => none

end Error

/-- The identifier with a name, or a validation error. -/
def Ident.validated (name : String) : Except Error Ident :=
  match Ident.ofName name with
  | .ok ident => .ok ident
  | .error fault => .error (.validation (.identifier fault))

/-- Check that every placeholder of a statement has exactly one value. -/
def Statement.validate (statement : Statement) : Except Error Unit :=
  if statement.isAligned then .ok ()
  else .error (.validation (.misaligned statement.placeholderCount statement.values.length))

end EntityQuery

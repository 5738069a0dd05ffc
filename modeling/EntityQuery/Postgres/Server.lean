import EntityQuery.Placeholder
import EntityQuery.Postgres.Decode
import EntityQuery.Postgres.Encode
import EntityQuery.Row

/-!
# Statements on a server

A statement is sent with numbered placeholders.  The server answers with the types of its
parameters, the values are bound by these types, and the rows that come back are decoded.  The
server here is one that has made up its mind: its types, its rows and whether it refuses are given.
-/

namespace EntityQuery.Postgres

/-- What a server does with a statement. -/
structure Server where
  parameters : List ServerType
  columns : List ResultColumn
  rows : List (List (Option Bytes))
  /-- The code and the words of a refusal. -/
  refusal : Option (String × String)

/-- What is sent to a server. -/
inductive Message
  /-- A text without parameters. -/
  | simple (sql : String)
  /-- A statement to prepare. -/
  | parse (sql : String)
  /-- The parameters of the prepared statement. -/
  | bind (parameters : List (Option Bytes))

/-- Encode parameters from a position on; the first that cannot be encoded is an error. -/
def encodeParameters (position : Nat) : List (ServerType × Json) →
    Except Error (List (Option Bytes))
  | [] => .ok []
  | (type, value) :: rest =>
      match type.encodeNullable value with
      | .ok encoded => (encoded :: ·) <$> encodeParameters (position + 1) rest
      | .error fault => .error (.query (.parameter position fault))

def bindValues (types : List ServerType) (values : List Json) :
    Except Error (List (Option Bytes)) :=
  if types.length = values.length then encodeParameters 0 (types.zip values)
  else .error (.query (.parameterCount types.length values.length))

namespace Server

/-- The rows of a statement that has been bound. -/
def answer (server : Server) : Except Error (List Row) :=
  match server.refusal with
  | some (code, words) => .error (.query (.refused code words))
  | none => server.rows.mapM fun cells => Row.positional <$> decodeRow server.columns cells

/-- Send a statement: the messages of it, and its rows.  A null character would end the text too
early, so a statement with one is not sent. -/
def query (server : Server) (sql : String) (values : List Json) :
    List Message × Except Error (List Row) :=
  if sql.toList.contains '\x00' then ([], .error (.query .unsendable))
  else
    let prepared := Message.parse (Placeholder.numbered sql)
    match bindValues server.parameters values with
    | .ok parameters => ([prepared, .bind parameters], server.answer)
    | .error error => ([prepared], .error error)

/-- Send a statement inside a transaction that is committed whatever comes of it. -/
def queryInTransaction (server : Server) (sql : String) (values : List Json) :
    List Message × Except Error (List Row) :=
  let (messages, result) := server.query sql values
  (.simple "START TRANSACTION" :: messages ++ [.simple "COMMIT"], result)

end Server

end EntityQuery.Postgres

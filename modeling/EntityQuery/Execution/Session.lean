import EntityQuery.Execution.Event
import EntityQuery.Row

/-!
# Sessions

A session is one connection with the replies that it is going to give.  It records the statements
it is sent and the events that are logged.  An execution reads and changes a session and ends in a
value or an error; what it has sent stays sent in both cases.
-/

namespace EntityQuery

/-- A reply to a statement. -/
inductive Reply
  | rows (rows : List Row)
  | failure (error : Error)

/-- A statement as it is sent to a connection. -/
structure Request where
  sql : String
  values : List Json

/-- A connection in use.  When all replies have been given, further statements return no rows. -/
structure Session where
  replies : List Reply
  /-- Whether a reply only comes after everything else that can be sent has been sent. -/
  overlapping : Bool
  sent : List Request
  events : List Event

/-- A computation that uses a session. -/
abbrev Execution (α : Type) := ExceptT Error (StateM Session) α

namespace Session

/-- A session with its replies, before anything is sent. -/
def start (replies : List Reply) (overlapping : Bool) : Session :=
  ⟨replies, overlapping, [], []⟩

end Session

namespace Execution

def ofExcept {α : Type} (result : Except Error α) : Execution α := .mk (pure result)

def log (event : Event) : Execution Unit :=
  modify fun session => { session with events := session.events ++ [event] }

def send (sql : String) (values : List Json) : Execution Unit :=
  modify fun session => { session with sent := session.sent ++ [⟨sql, values⟩] }

def receive : Execution (List Row) := do
  let session ← get
  match session.replies with
  | [] => return []
  | reply :: rest =>
      set { session with replies := rest }
      match reply with
      | .rows rows => return rows
      | .failure error => throw error

/-- Send a statement as it is and drop the rows that it returns. -/
def perform (sql : String) (values : List Json) : Execution Unit := do
  send sql values
  discard receive

/-- The value or error of an execution. -/
def attempt {α : Type} (execution : Execution α) : Execution (Except Error α) :=
  ExceptT.lift execution.run

/-- An error changed by a function; what was sent stays sent. -/
def mapError {α : Type} (change : Error → Error) (execution : Execution α) : Execution α := do
  match ← execution.attempt with
  | .ok value => return value
  | .error error => throw (change error)

end Execution

end EntityQuery

import EntityQuery.Execution.Session
import EntityQuery.Query
import EntityQuery.Row.Shape

/-!
# Executing plans

Every operation formats its statements first, so that nothing is sent if formatting fails.  Just
before a statement is sent it is checked that every placeholder has a value.  Batches are under way
together: on an overlapping session they are all sent before the first reply is taken.
-/

namespace EntityQuery.Plan

/-- The error of a statement that could not be sent or was refused. -/
def refusal (plan : Plan) (verb : Verb) (statement : Statement) (source : Error) : Error :=
  .execute verb plan.entity.name (statement.toFailed plan.settings.debug) source

/-- What is logged when a statement is sent. -/
def sendEvent (plan : Plan) (verb : Verb) (statement : Statement) : Event :=
  .executing plan.entity.name verb statement.sql
    (if plan.settings.debug then .shown statement.values else .counted statement.values.length)

def announce (plan : Plan) (verb : Verb) (statement : Statement) : Execution Unit := do
  Execution.ofExcept (statement.validate.mapError (plan.refusal verb statement))
  Execution.log (plan.sendEvent verb statement)
  Execution.send statement.sql statement.values

/-- Take the rows of a statement that has been sent. -/
def collect (plan : Plan) (verb : Verb) (statement : Statement) : Execution (List Record) := do
  let rows ← Execution.receive.mapError (plan.refusal verb statement)
  Execution.ofExcept (rows.mapM (·.unzip statement.aliases))

/-- Send a statement and take its rows. -/
def run (plan : Plan) (verb : Verb) (statement : Statement) : Execution (List Record) := do
  plan.announce verb statement
  plan.collect verb statement

/-- Send statements one after the other, each when the one before it has been answered. -/
def runInTurn (plan : Plan) (verb : Verb) (statements : List Statement) :
    Execution (List (List Record)) :=
  statements.mapM (plan.run verb)

/-- Send all statements and then take their rows.  A statement that is not valid ends it before
any reply is taken. -/
def runTogether (plan : Plan) (verb : Verb) (statements : List Statement) :
    Execution (List (List Record)) := do
  statements.forM (plan.announce verb)
  statements.mapM (plan.collect verb)

/-- Take the rows of statements that have been sent, or are known not to be valid. -/
def collectQueued (plan : Plan) (verb : Verb) :
    List (Statement × Except Error Unit) → Execution (List (List Record))
  | [] => return []
  | (statement, announced) :: rest => do
      Execution.ofExcept announced
      let records ← plan.collect verb statement
      return records :: (← plan.collectQueued verb rest)

/-- Send all statements and then take their rows.  A statement that is not valid ends it when its
turn to be answered has come, which for the first one is at once. -/
def runQueued (plan : Plan) (verb : Verb) : List Statement → Execution (List (List Record))
  | [] => return []
  | first :: rest => do
      plan.announce verb first
      let announced ← rest.mapM fun statement => (plan.announce verb statement).attempt
      plan.collectQueued verb ((first, .ok ()) :: rest.zip announced)

/-- The number of batches that are watched together; more of them are queued. -/
def watchedTogether : Nat := 30

/-- Execute statements as batches and join their rows. -/
def runBatches (plan : Plan) (verb : Verb) (statements : List Statement) :
    Execution (List Record) := do
  if 1 < statements.length then
    Execution.log (.batches plan.entity.name verb statements.length)
  let session ← get
  let rows ←
    if !session.overlapping then plan.runInTurn verb statements
    else if statements.length ≤ watchedTogether then plan.runTogether verb statements
    else plan.runQueued verb statements
  return rows.flatten

/-- The rows, unless rows are required and there are none. -/
def checkRequired (plan : Plan) (verb : Verb) (rows : List Record) : Except Error (List Record) :=
  if rows.isEmpty && plan.settings.require then .error (.noRows verb plan.entity.name)
  else .ok rows

/-- Execute one statement, once it is formatted. -/
def perform (plan : Plan) (verb : Verb) (statement : Except Error Statement) :
    Execution (List Record) := do
  let statement ← Execution.ofExcept statement
  let rows ← plan.run verb statement
  Execution.ofExcept (plan.checkRequired verb rows)

/-- Execute statements as batches, once they are formatted. -/
def performBatches (plan : Plan) (verb : Verb) (statements : Except Error (List Statement)) :
    Execution (List Record) := do
  let statements ← Execution.ofExcept statements
  let rows ← plan.runBatches verb statements
  Execution.ofExcept (plan.checkRequired verb rows)

def fetch (plan : Plan) : Execution (List Record) := plan.perform .fetch plan.select

/-- The plan for the first of its rows. -/
def firstRow (plan : Plan) : Plan :=
  { plan with settings := { plan.settings with first := true } }

/-- Fetch the first row, if there is one. -/
def fetchFirst (plan : Plan) : Execution (Option Record) := do
  let rows ← plan.firstRow.fetch
  return rows.head?

/-- The number in the answer to a count, as a number or as text. -/
def countOf? : Json → Option Nat
  | .integer number => if 0 ≤ number then some number.toNat else none
  | .string text => Numeral.unsignedWithin? 64 text
  | _ => none

def fetchCount (plan : Plan) : Execution Nat := do
  let statement ← Execution.ofExcept plan.count
  let rows ← plan.run .fetch statement
  let answer := (rows.head?.bind (Record.find? · "count")).getD .null
  match countOf? answer with
  | some count => return count
  | none => throw (.decode "count" (.count answer))

/-- Insert rows in batches and return them. -/
def insertRows (plan : Plan) (rows : List Record) : Execution (List Record) :=
  plan.performBatches .insert (plan.inserts rows)

/-- Insert the rows of a source and return them. -/
def insertRowsFrom (plan : Plan) (source : InsertSource) : Execution (List Record) :=
  plan.perform .insert (plan.insertFrom source)

/-- Update rows from a record and return them. -/
def updateRows (plan : Plan) (record : Record) : Execution (List Record) :=
  plan.perform .update (plan.update record)

/-- Update rows from records by primary key in batches and return them. -/
def updateAll (plan : Plan) (records : List Record) : Execution (List Record) :=
  plan.performBatches .update (plan.updateMany records)

def deleteRows (plan : Plan) : Execution (List Record) := plan.perform .delete plan.delete

/-- Fetch all rows, read by a shape. -/
def fetchAs (plan : Plan) (shape : Shape) : Execution (List Json) := do
  let records ← plan.fetch
  Execution.ofExcept (records.mapM (Record.read · shape))

/-- Fetch the first row, if there is one, read by a shape. -/
def fetchFirstAs (plan : Plan) (shape : Shape) : Execution (Option Json) := do
  match ← plan.fetchFirst with
  | none => return none
  | some record => some <$> Execution.ofExcept (Record.read record shape)

end EntityQuery.Plan

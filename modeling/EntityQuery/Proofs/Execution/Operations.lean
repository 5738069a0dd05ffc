import EntityQuery.Proofs.Execution.Handover
import EntityQuery.Proofs.Postgres.Messages

/-!
# What operations send

The operations of a plan, with the statements that they format.  Nothing is sent if they cannot be
formatted, and otherwise nothing but some of them, in order and aligned.
-/

namespace EntityQuery

/-- An operation on the rows of a plan, with the data that it is given. -/
inductive Operation
  | fetch
  | fetchFirst
  | count
  | insert (rows : List Record)
  | insertFrom (source : InsertSource)
  | update (record : Record)
  | updateMany (records : List Record)
  | delete

namespace Execution

variable {α β : Type}

/-- The execution ends in the error of the formatting, with the session as it was; or it sends
nothing but statements that were formatted. -/
def SendsFormatted (formatted : Except Error (List Statement)) (execution : Execution α) : Prop :=
  match formatted with
  | .ok statements => Sends statements execution
  | .error error => ∀ session, outcome execution session = (.error error, session)

namespace SendsFormatted

variable {formatted : Except Error (List Statement)} {execution : Execution α}

/-- Formatting comes first. -/
theorem bind {given : Except Error β} {shown : β → List Statement} {next : β → Execution α}
    (sends : ∀ value, Sends (shown value) (next value)) :
    SendsFormatted (shown <$> given) (Execution.ofExcept given >>= next) := by
  cases given with
  | ok value => exact fun session => sends value session
  | error error => exact fun session => rfl

theorem andThen {next : α → Execution β} (first : SendsFormatted formatted execution)
    (second : ∀ value, Sends [] (next value)) : SendsFormatted formatted (execution >>= next) := by
  cases formatted with
  | ok statements => exact Sends.andThen first second
  | error error =>
      intro session
      rw [outcome_bind, first session]

theorem discard (sends : SendsFormatted formatted execution) :
    SendsFormatted formatted (discard execution) := by
  have last : Functor.discard execution = execution >>= fun _ => pure () :=
    map_eq_pure_bind (fun _ => ()) execution
  rw [last]
  exact sends.andThen fun _ => Sends.pure ()

end SendsFormatted

end Execution

namespace Plan

open Execution

/-- Run an operation without its result. -/
def carryOut (plan : Plan) : Operation → Execution Unit
  | .fetch => discard plan.fetch
  | .fetchFirst => discard plan.fetchFirst
  | .count => discard plan.fetchCount
  | .insert rows => discard (plan.insertRows rows)
  | .insertFrom source => discard (plan.insertRowsFrom source)
  | .update record => discard (plan.updateRows record)
  | .updateMany records => discard (plan.updateAll records)
  | .delete => discard plan.deleteRows

/-- The statements that an operation formats. -/
def formatted (plan : Plan) : Operation → Except Error (List Statement)
  | .fetch => List.singleton <$> plan.select
  | .fetchFirst => List.singleton <$> plan.firstRow.select
  | .count => List.singleton <$> plan.count
  | .insert rows => plan.inserts rows
  | .insertFrom source => List.singleton <$> plan.insertFrom source
  | .update record => List.singleton <$> plan.update record
  | .updateMany records => plan.updateMany records
  | .delete => List.singleton <$> plan.delete

theorem sends_perform (plan : Plan) (verb : Verb) (statement : Except Error Statement) :
    SendsFormatted (List.singleton <$> statement) (plan.perform verb statement) :=
  SendsFormatted.bind fun statement => (plan.sends_run verb statement).andThen fun _ =>
    Sends.ofExcept _

theorem sends_performBatches (plan : Plan) (verb : Verb)
    (statements : Except Error (List Statement)) :
    SendsFormatted statements (plan.performBatches verb statements) := by
  have sends : SendsFormatted (id <$> statements) (plan.performBatches verb statements) :=
    SendsFormatted.bind fun formatted => (plan.sends_runBatches verb formatted).andThen
      fun rows => Sends.ofExcept (plan.checkRequired verb rows)
  rwa [id_map] at sends

theorem sends_fetchCount (plan : Plan) :
    SendsFormatted (List.singleton <$> plan.count) plan.fetchCount := by
  refine SendsFormatted.bind fun statement =>
    (plan.sends_run .fetch statement).andThen fun rows => ?_
  dsimp only
  split
  · exact Sends.pure _
  · exact Sends.throw _

theorem sends_carryOut (plan : Plan) (operation : Operation) :
    SendsFormatted (plan.formatted operation) (plan.carryOut operation) := by
  cases operation with
  | fetch => exact (plan.sends_perform .fetch plan.select).discard
  | fetchFirst =>
      have fetched := plan.firstRow.sends_perform .fetch plan.firstRow.select
      exact (fetched.andThen fun rows => Sends.pure rows.head?).discard
  | count => exact plan.sends_fetchCount.discard
  | insert rows => exact (plan.sends_performBatches .insert (plan.inserts rows)).discard
  | insertFrom source => exact (plan.sends_perform .insert (plan.insertFrom source)).discard
  | update record => exact (plan.sends_perform .update (plan.update record)).discard
  | updateMany records =>
      exact (plan.sends_performBatches .update (plan.updateMany records)).discard
  | delete => exact (plan.sends_perform .delete plan.delete).discard

/-- An operation whose statements cannot be formatted leaves its session alone.  Otherwise it sends
some of the statements, in order and each at most once, all of them aligned.  Sent to a server, a
statement is numbered from `$1` to the number of its parameters. -/
theorem sent_of_carryOut (plan : Plan) (operation : Operation) (session : Session) :
    match plan.formatted operation with
    | .error error => outcome (plan.carryOut operation) session = (.error error, session)
    | .ok statements => ∃ handed : List Statement, handed.Sublist statements ∧
        (outcome (plan.carryOut operation) session).2.sent =
          session.sent ++ handed.map Statement.toRequest ∧
        ∀ statement ∈ handed, statement.placeholderCount = statement.values.length ∧
          ∀ server : Postgres.Server,
            ∀ message ∈ (server.query statement.sql statement.values).1,
              message.Carries statement := by
  have sends := plan.sends_carryOut operation
  cases result : plan.formatted operation with
  | error error =>
      rw [result] at sends
      exact sends session
  | ok statements =>
      rw [result] at sends
      obtain ⟨handed, within, aligned, sent⟩ := sends session
      refine ⟨handed, within, sent, fun statement member => ⟨aligned statement member, ?_⟩⟩
      exact fun server => server.carries_of_query (aligned statement member)

end Plan

end EntityQuery

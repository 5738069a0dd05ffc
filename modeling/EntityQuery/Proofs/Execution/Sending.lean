import EntityQuery.Execution.Operation
import EntityQuery.Proofs.Statement.Alignment

/-!
# What an execution sends

An execution only ever adds to what its session has sent.  It is compared with a list of statements
that it may send: whatever it sends comes from that list, in the order of the list, each statement
at most once, and aligned.  Executions in sequence may send the lists of both.
-/

namespace EntityQuery

/-- The statement as it is sent. -/
def Statement.toRequest (statement : Statement) : Request := ⟨statement.sql, statement.values⟩

namespace Execution

variable {α β : Type} {session : Session}

/-- The value or error of an execution in a session, and the session after it. -/
def outcome (execution : Execution α) (session : Session) : Except Error α × Session :=
  execution.run.run session

theorem outcome_bind (execution : Execution α) (next : α → Execution β) (session : Session) :
    outcome (execution >>= next) session =
      match outcome execution session with
      | (.ok value, later) => outcome (next value) later
      | (.error error, later) => (.error error, later) := by
  unfold outcome
  rw [ExceptT.run_bind, StateT.run_bind]
  rcases StateT.run execution.run session with ⟨_ | _, later⟩ <;> rfl

/-- The execution sends nothing but aligned statements of the list, in order and each at most
once. -/
def Sends (statements : List Statement) (execution : Execution α) : Prop :=
  ∀ session : Session, ∃ handed : List Statement,
    handed.Sublist statements ∧
      (∀ statement ∈ handed, statement.placeholderCount = statement.values.length) ∧
      (outcome execution session).2.sent = session.sent ++ handed.map Statement.toRequest

namespace Sends

variable {statements more : List Statement} {execution : Execution α}

/-- An execution that leaves what has been sent as it is. -/
theorem of_unchanged (unchanged : ∀ session, (outcome execution session).2.sent = session.sent) :
    Sends [] execution := fun session =>
  ⟨[], List.Sublist.refl _, by simp, by simp [unchanged session]⟩

theorem pure (value : α) : Sends [] (pure value : Execution α) := of_unchanged fun _ => rfl

/-- What is sent first comes first; an error ends the sequence. -/
theorem bind {next : α → Execution β} (first : Sends statements execution)
    (second : ∀ value, Sends more (next value)) :
    Sends (statements ++ more) (execution >>= next) := by
  intro session
  obtain ⟨handed, within, aligned, sent⟩ := first session
  rw [outcome_bind]
  rcases ended : outcome execution session with ⟨result, later⟩
  rw [ended] at sent
  cases result with
  | error error =>
      exact ⟨handed, within.trans (List.sublist_append_left _ _), aligned, sent⟩
  | ok value =>
      obtain ⟨others, othersWithin, othersAligned, othersSent⟩ := second value later
      refine ⟨handed ++ others, within.append othersWithin, ?_, ?_⟩
      · intro statement member
        exact (List.mem_append.1 member).elim (aligned statement) (othersAligned statement)
      · dsimp only at othersSent sent ⊢
        rw [othersSent, sent, List.map_append, List.append_assoc]

theorem ofExcept (result : Except Error α) : Sends [] (Execution.ofExcept result) :=
  of_unchanged fun _ => rfl

theorem throw (error : Error) : Sends [] (MonadExcept.throw error : Execution α) :=
  of_unchanged fun _ => rfl

theorem log (event : Event) : Sends [] (Execution.log event) := of_unchanged fun _ => rfl

theorem get : Sends [] (MonadState.get : Execution Session) := of_unchanged fun _ => rfl

theorem receive : Sends [] Execution.receive := by
  refine of_unchanged fun session => ?_
  obtain ⟨replies, overlapping, sent, events⟩ := session
  match replies with
  | [] => rfl
  | .rows _ :: _ => rfl
  | .failure _ :: _ => rfl

theorem attempt (sends : Sends statements execution) : Sends statements execution.attempt :=
  sends

/-- A sequence whose second part sends nothing. -/
theorem andThen {next : α → Execution β} (first : Sends statements execution)
    (second : ∀ value, Sends [] (next value)) : Sends statements (execution >>= next) := by
  simpa only [List.append_nil] using first.bind second

theorem mapError (change : Error → Error) (sends : Sends statements execution) :
    Sends statements (execution.mapError change) := by
  refine sends.attempt.andThen fun result => ?_
  cases result with
  | ok value => exact pure value
  | error error => exact throw (change error)

variable {γ : Type} {shown : γ → List Statement}

theorem mapM {step : γ → Execution α} (each : ∀ item, Sends (shown item) (step item))
    (items : List γ) : Sends (items.flatMap shown) (items.mapM step) := by
  induction items with
  | nil => exact pure _
  | cons item rest ih =>
      rw [List.mapM_cons, List.flatMap_cons]
      exact (each item).bind fun _ => ih.andThen fun _ => pure _

theorem forM {step : γ → Execution Unit} (each : ∀ item, Sends (shown item) (step item))
    (items : List γ) : Sends (items.flatMap shown) (items.forM step) := by
  induction items with
  | nil => exact pure _
  | cons item rest ih =>
      rw [List.flatMap_cons]
      exact (each item).bind fun _ => ih

end Sends

end Execution

end EntityQuery

import EntityQuery.Postgres.Encode
import EntityQuery.Proofs.Execution.Sending
import EntityQuery.Proofs.Outcome

/-!
# Executions that agree

Two connections reply alike when their replies are the same, up to the reason why a parameter could
not be encoded.  Executions agree when on such connections they end alike: both in related values,
or both in errors that differ in such a reason alone.
-/

namespace EntityQuery

open Outcome

/-- Errors that differ at most in why one parameter could not be encoded.  The server expects the
same type of it, and no values are kept with the statement. -/
inductive Error.Alike : Error → Error → Prop
  | same (error : Error) : Error.Alike error error
  | parameter (position : Nat) {type : Postgres.ServerType} {value twin : Json}
      {fault other : Postgres.EncodeFault} : type.encodeNullable value = .error fault →
      type.encodeNullable twin = .error other →
      Error.Alike (.query (.parameter position fault)) (.query (.parameter position other))
  | execute (verb : Verb) (entity sql : String) {source opposite : Error} :
      Error.Alike source opposite →
      Error.Alike (.execute verb entity ⟨sql, none⟩ source)
        (.execute verb entity ⟨sql, none⟩ opposite)

inductive Reply.Alike : Reply → Reply → Prop
  | rows (rows : List Row) : Reply.Alike (.rows rows) (.rows rows)
  | failure {error other : Error} :
      Error.Alike error other → Reply.Alike (.failure error) (.failure other)

structure Session.Alike (session twin : Session) : Prop where
  replies : List.Forall₂ Reply.Alike session.replies twin.replies
  overlapping : session.overlapping = twin.overlapping

namespace Execution

variable {α β γ δ : Type}

theorem forall₂_zip {paired : α → β → Prop} {matched : γ → δ → Prop} {items : List α}
    {twins : List β} {results : List γ} {endings : List δ}
    (first : List.Forall₂ paired items twins) (second : List.Forall₂ matched results endings) :
    List.Forall₂ (fun entry twin => paired entry.1 twin.1 ∧ matched entry.2 twin.2)
      (items.zip results) (twins.zip endings) := by
  induction first generalizing results endings with
  | nil => exact .nil
  | cons head _ ih =>
      cases second with
      | nil => exact .nil
      | cons result rest => exact .cons ⟨head, result⟩ (ih rest)

/-- Both results are values that are related, or both are errors that are alike. -/
inductive Ends (related : α → β → Prop) : Except Error α → Except Error β → Prop
  | ok {value : α} {twin : β} : related value twin → Ends related (.ok value) (.ok twin)
  | error {error other : Error} :
      Error.Alike error other → Ends related (.error error) (.error other)

theorem Ends.of_matches {related : α → β → Prop} {result : Except Error α}
    {other : Except Error β} (matched : Matches related result other) :
    Ends related result other := by
  cases matched with
  | ok values => exact .ok values
  | error fault => exact .error (.same fault)

theorem Ends.imp {related weaker : α → β → Prop} {result : Except Error α}
    {other : Except Error β} (ends : Ends related result other)
    (implied : ∀ value twin, related value twin → weaker value twin) :
    Ends weaker result other := by
  cases ends with
  | ok values => exact .ok (implied _ _ values)
  | error errors => exact .error errors

def Agree (related : α → β → Prop) (execution : Execution α) (opposite : Execution β) : Prop :=
  ∀ session twin : Session, session.Alike twin →
    Ends related (outcome execution session).1 (outcome opposite twin).1 ∧
      (outcome execution session).2.Alike (outcome opposite twin).2

namespace Agree

variable {related : α → β → Prop} {after : γ → δ → Prop} {execution : Execution α}
  {opposite : Execution β}

theorem imp {weaker : α → β → Prop} (agree : Agree related execution opposite)
    (implied : ∀ value twin, related value twin → weaker value twin) :
    Agree weaker execution opposite := by
  intro session twin sessions
  obtain ⟨ends, later⟩ := agree session twin sessions
  exact ⟨ends.imp implied, later⟩

theorem bind {next : α → Execution γ} {other : β → Execution δ}
    (first : Agree related execution opposite)
    (second : ∀ value twin, related value twin → Agree after (next value) (other twin)) :
    Agree after (execution >>= next) (opposite >>= other) := by
  intro session twin sessions
  obtain ⟨ends, later⟩ := first session twin sessions
  rw [outcome_bind, outcome_bind]
  generalize outcome execution session = reached at ends later ⊢
  generalize outcome opposite twin = met at ends later ⊢
  obtain ⟨result, session⟩ := reached
  obtain ⟨ending, twin⟩ := met
  cases ends with
  | ok values => exact second _ _ values session twin later
  | error errors => exact ⟨.error errors, later⟩

theorem ofExcept {result : Except Error α} {other : Except Error β}
    (ends : Ends related result other) :
    Agree related (Execution.ofExcept result) (Execution.ofExcept other) :=
  fun _ _ sessions => ⟨ends, sessions⟩

theorem pure {value : α} {twin : β} (values : related value twin) :
    Agree related (pure value : Execution α) (pure twin : Execution β) :=
  fun _ _ sessions => ⟨.ok values, sessions⟩

theorem throw (error : Error) :
    Agree related (MonadExcept.throw error : Execution α)
      (MonadExcept.throw error : Execution β) :=
  fun _ _ sessions => ⟨.error (.same error), sessions⟩

theorem get : Agree (fun session twin => Session.Alike session twin)
    (MonadState.get : Execution Session) (MonadState.get : Execution Session) :=
  fun _ _ sessions => ⟨.ok sessions, sessions⟩

theorem log (event shown : Event) :
    Agree (fun _ _ => True) (Execution.log event) (Execution.log shown) :=
  fun _ _ sessions => ⟨.ok trivial, sessions.replies, sessions.overlapping⟩

theorem send (sql text : String) (values others : List Json) :
    Agree (fun _ _ => True) (Execution.send sql values) (Execution.send text others) :=
  fun _ _ sessions => ⟨.ok trivial, sessions.replies, sessions.overlapping⟩

theorem receive : Agree Eq Execution.receive Execution.receive := by
  intro session twin sessions
  obtain ⟨replies, overlapping, sent, events⟩ := session
  obtain ⟨answers, _, handed, logged⟩ := twin
  obtain ⟨paired, rfl⟩ := sessions
  cases paired with
  | nil => exact ⟨.ok rfl, .nil, rfl⟩
  | cons head rest =>
      cases head with
      | rows rows => exact ⟨.ok rfl, rest, rfl⟩
      | failure errors => exact ⟨.error errors, rest, rfl⟩

theorem attempt (agree : Agree related execution opposite) :
    Agree (Ends related) execution.attempt opposite.attempt := by
  intro session twin sessions
  obtain ⟨ends, later⟩ := agree session twin sessions
  exact ⟨.ok ends, later⟩

theorem mapError {change alter : Error → Error}
    (changed : ∀ error other, Error.Alike error other → Error.Alike (change error) (alter other))
    (agree : Agree related execution opposite) :
    Agree related (execution.mapError change) (opposite.mapError alter) := by
  refine agree.attempt.bind fun result ending ends => ?_
  cases ends with
  | ok values => exact .pure values
  | error errors => exact fun _ _ sessions => ⟨.error (changed _ _ errors), sessions⟩

theorem mapM {source : γ → δ → Prop} {step : γ → Execution α} {other : δ → Execution β}
    (each : ∀ item twin, source item twin → Agree related (step item) (other twin))
    {items : List γ} {twins : List δ} (paired : List.Forall₂ source items twins) :
    Agree (List.Forall₂ related) (items.mapM step) (twins.mapM other) := by
  induction paired with
  | nil => exact .pure .nil
  | cons head _ ih =>
      rw [List.mapM_cons, List.mapM_cons]
      refine (each _ _ head).bind fun _ _ first => ?_
      exact ih.bind fun _ _ others => .pure (.cons first others)

theorem forM {source : γ → δ → Prop} {step : γ → Execution Unit} {other : δ → Execution Unit}
    (each : ∀ item twin, source item twin → Agree (fun _ _ => True) (step item) (other twin))
    {items : List γ} {twins : List δ} (paired : List.Forall₂ source items twins) :
    Agree (fun _ _ => True) (items.forM step) (twins.forM other) := by
  induction paired with
  | nil => exact .pure trivial
  | cons head _ ih => exact (each _ _ head).bind fun _ _ _ => ih

theorem discard (agree : Agree related execution opposite) :
    Agree (fun _ _ => True) (discard execution) (discard opposite) := by
  have last {τ : Type} (ended : Execution τ) :
      Functor.discard ended = ended >>= fun _ => Pure.pure () :=
    map_eq_pure_bind (fun _ => ()) ended
  rw [last, last]
  exact agree.bind fun _ _ _ => .pure trivial

end Agree

end Execution

end EntityQuery

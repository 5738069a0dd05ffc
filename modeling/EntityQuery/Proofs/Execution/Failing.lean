import EntityQuery.Proofs.Execution.Transacting
import EntityQuery.Proofs.Statement.Building

/-!
# Errors of building and errors of executing

An operation is built before anything is sent, and fails with the error of the first requirement
that is not met.  Once it is built, its errors are of three kinds, none of them an error of
configuration: a statement failed, required rows are missing, or what came back cannot be read.
-/

namespace EntityQuery

open Outcome

namespace Execution

variable {α β γ : Type} {value : α → Prop} {after : β → Prop} {kinds : List String}

/-- The result is a value of which this holds, or an error of one of the kinds. -/
def Allows (value : α → Prop) (kinds : List String) : Except Error α → Prop
  | .ok result => value result
  | .error error => error.kind ∈ kinds

namespace Allows

variable {computed : Except Error α}

theorem bind {next : α → Except Error β} (first : Allows value kinds computed)
    (second : ∀ result, Allows after kinds (next result)) :
    Allows after kinds (computed >>= next) := by
  cases computed with
  | ok result => exact second result
  | error error => exact first

theorem mapM {step : γ → Except Error α} (each : ∀ item, Allows value kinds (step item))
    (items : List γ) : Allows (fun _ => True) kinds (items.mapM step) := by
  induction items with
  | nil => exact trivial
  | cons item rest ih =>
      rw [List.mapM_cons]
      exact (each item).bind fun _ => ih.bind fun _ => trivial

theorem foldlM {step : α → γ → Except Error α}
    (each : ∀ state item, Allows (fun _ => True) kinds (step state item)) (state : α)
    (items : List γ) : Allows (fun _ => True) kinds (items.foldlM step state) := by
  induction items generalizing state with
  | nil => exact trivial
  | cons item rest ih =>
      rw [List.foldlM_cons]
      exact (each state item).bind fun later => ih later

end Allows

/-- Whatever the session, this holds of the value that the execution ends in, or it ends in an error
of one of the kinds. -/
def EndsIn (value : α → Prop) (kinds : List String) (execution : Execution α) : Prop :=
  ∀ session, Allows value kinds (outcome execution session).1

namespace EndsIn

variable {execution : Execution α}

theorem imp {weaker : α → Prop} {more : List String} (ends : EndsIn value kinds execution)
    (implied : ∀ result, value result → weaker result) (within : kinds ⊆ more) :
    EndsIn weaker more execution := by
  intro session
  have ended := ends session
  generalize (outcome execution session).1 = result at ended ⊢
  cases result with
  | ok result => exact implied result ended
  | error error => exact within ended

theorem kind_mem (ends : EndsIn value kinds execution) {session later : Session} {error : Error}
    (failed : outcome execution session = (.error error, later)) : error.kind ∈ kinds := by
  have ended := ends session
  rwa [failed] at ended

theorem bind {next : α → Execution β} (first : EndsIn value kinds execution)
    (second : ∀ result, value result → EndsIn after kinds (next result)) :
    EndsIn after kinds (execution >>= next) := by
  intro session
  have ended := first session
  rw [outcome_bind]
  generalize outcome execution session = reached at ended ⊢
  obtain ⟨result, later⟩ := reached
  cases result with
  | ok result => exact second result ended later
  | error error => exact ended

theorem pure {result : α} (held : value result) : EndsIn value kinds (pure result : Execution α) :=
  fun _ => held

theorem throw {error : Error} (named : error.kind ∈ kinds) :
    EndsIn value kinds (MonadExcept.throw error : Execution α) :=
  fun _ => named

theorem ofExcept {result : Except Error α} (allowed : Allows value kinds result) :
    EndsIn value kinds (Execution.ofExcept result) :=
  fun _ => allowed

theorem log (event : Event) : EndsIn (fun _ => True) kinds (Execution.log event) := fun _ => trivial

theorem send (sql : String) (values : List Json) :
    EndsIn (fun _ => True) kinds (Execution.send sql values) :=
  fun _ => trivial

theorem get : EndsIn (fun _ => True) kinds (MonadState.get : Execution Session) := fun _ => trivial

/-- The error of an attempt is part of its value. -/
theorem attempt {others : List String} (ends : EndsIn value kinds execution) :
    EndsIn (Allows value kinds) others execution.attempt :=
  ends

/-- Whatever the errors of an execution are, they are changed into these kinds. -/
theorem mapError {change : Error → Error} (execution : Execution α)
    (changed : ∀ error, (change error).kind ∈ kinds) :
    EndsIn (fun _ => True) kinds (execution.mapError change) := by
  have tried : EndsIn (fun _ => True) kinds execution.attempt := fun _ => trivial
  refine tried.bind fun result _ => ?_
  cases result with
  | ok result => exact pure trivial
  | error error => exact throw (changed error)

theorem mapM {step : γ → Execution α} (each : ∀ item, EndsIn value kinds (step item))
    (items : List γ) : EndsIn (fun results => ∀ result ∈ results, value result) kinds
      (items.mapM step) := by
  induction items with
  | nil => exact pure (List.forall_mem_nil _)
  | cons item rest ih =>
      rw [List.mapM_cons]
      refine (each item).bind fun result held => ih.bind fun results others => pure ?_
      exact List.forall_mem_cons.2 ⟨held, others⟩

theorem forM {step : γ → Execution Unit}
    (each : ∀ item, EndsIn (fun _ => True) kinds (step item)) (items : List γ) :
    EndsIn (fun _ => True) kinds (items.forM step) := by
  induction items with
  | nil => exact pure trivial
  | cons item rest ih => exact (each item).bind fun _ _ => ih

theorem discard (ends : EndsIn value kinds execution) :
    EndsIn (fun _ => True) kinds (discard execution) := by
  have last : Functor.discard execution = execution >>= fun _ => Pure.pure () :=
    map_eq_pure_bind (fun _ => ()) execution
  rw [last]
  exact ends.bind fun _ _ => pure trivial

end EndsIn

end Execution

open Execution

namespace Row

theorem allows_keyedValues (columns : Record) (position : Nat) (aliases : List String) :
    Allows (fun _ => True) ["Decode"] (keyedValues columns position aliases) := by
  induction aliases generalizing columns position with
  | nil => exact trivial
  | cons columnAlias rest ih =>
      rw [keyedValues]
      cases takeColumn? columns position columnAlias with
      | none => exact List.mem_singleton.2 rfl
      | some taken =>
          have others := ih taken.2 (position + 1)
          dsimp only
          rw [map_eq_pure_bind]
          exact others.bind fun _ => trivial

theorem allows_values (row : Row) (aliases : List String) :
    Allows (fun _ => True) ["Decode"] (row.values aliases) := by
  cases row with
  | keyed columns => exact allows_keyedValues columns 0 aliases
  | positional values =>
      unfold Row.values
      dsimp only
      split
      · exact trivial
      · exact List.mem_singleton.2 rfl

theorem allows_add (nesting : Nesting) (column : String × Json) :
    Allows (fun _ => True) ["Decode"] (nesting.add column) := by
  unfold Nesting.add
  split
  · unfold Nesting.addJoined
    dsimp only
    split
    · exact trivial
    · exact trivial
    · exact List.mem_singleton.2 rfl
  · split_ifs
    · exact List.mem_singleton.2 rfl
    · exact trivial

/-- A row that cannot be zipped with its aliases cannot be decoded. -/
theorem allows_unzip (row : Row) (aliases : List String) :
    Allows (fun _ => True) ["Decode"] (row.unzip aliases) :=
  (allows_values row aliases).bind fun _ =>
    (Allows.foldlM allows_add _ _).bind fun _ => trivial

end Row

namespace Plan

variable (plan : Plan) (verb : Verb)

/-- The kinds of errors of an operation that has been built. -/
def executionKinds : List String := ["Execute", "NoRows", "Decode"]

theorem endsIn_announce (statement : Statement) :
    EndsIn (fun _ => True) executionKinds (plan.announce verb statement) := by
  have validated : EndsIn (fun _ => True) executionKinds
      (Execution.ofExcept (statement.validate.mapError (plan.refusal verb statement))) := by
    refine EndsIn.ofExcept ?_
    cases statement.validate with
    | ok _ => exact trivial
    | error _ => exact List.mem_cons_self
  exact validated.bind fun _ _ => (EndsIn.log _).bind fun _ _ => EndsIn.send _ _

theorem endsIn_collect (statement : Statement) :
    EndsIn (fun _ => True) executionKinds (plan.collect verb statement) := by
  have received : EndsIn (fun _ => True) executionKinds
      (Execution.receive.mapError (plan.refusal verb statement)) :=
    EndsIn.mapError Execution.receive fun _ => List.mem_cons_self
  refine received.bind fun rows _ => ?_
  have decoded : EndsIn (fun _ => True) ["Decode"]
      (Execution.ofExcept (rows.mapM (·.unzip statement.aliases))) :=
    EndsIn.ofExcept (Allows.mapM (Row.allows_unzip · statement.aliases) rows)
  exact decoded.imp (fun _ => id) (by decide)

theorem endsIn_run (statement : Statement) :
    EndsIn (fun _ => True) executionKinds (plan.run verb statement) :=
  (plan.endsIn_announce verb statement).bind fun _ _ => plan.endsIn_collect verb statement

/-- An announcement that has failed ends the batches with its own error. -/
theorem endsIn_collectQueued {announced : List (Statement × Except Error Unit)}
    (allowed : ∀ entry ∈ announced, Allows (fun _ => True) executionKinds entry.2) :
    EndsIn (fun _ => True) executionKinds (plan.collectQueued verb announced) := by
  induction announced with
  | nil => exact EndsIn.pure trivial
  | cons entry rest ih =>
      obtain ⟨statement, result⟩ := entry
      obtain ⟨held, others⟩ := List.forall_mem_cons.1 allowed
      exact (EndsIn.ofExcept held).bind fun _ _ =>
        (plan.endsIn_collect verb statement).bind fun _ _ =>
          (ih others).bind fun _ _ => EndsIn.pure trivial

theorem endsIn_runQueued (statements : List Statement) :
    EndsIn (fun _ => True) executionKinds (plan.runQueued verb statements) := by
  cases statements with
  | nil => exact EndsIn.pure trivial
  | cons first rest =>
      have announced : EndsIn (fun results => ∀ result ∈ results,
          Allows (fun _ => True) executionKinds result) executionKinds
          (rest.mapM fun statement => (plan.announce verb statement).attempt) :=
        EndsIn.mapM (fun statement => (plan.endsIn_announce verb statement).attempt) rest
      refine (plan.endsIn_announce verb first).bind fun _ _ => announced.bind fun results held => ?_
      refine plan.endsIn_collectQueued verb (List.forall_mem_cons.2 ⟨trivial, ?_⟩)
      exact fun entry member => held entry.2 (List.of_mem_zip member).2

theorem endsIn_runBatches (statements : List Statement) :
    EndsIn (fun _ => True) executionKinds (plan.runBatches verb statements) := by
  have gathered (session : Session) : EndsIn (fun _ => True) executionKinds (do
      if !session.overlapping then return (← plan.runInTurn verb statements).flatten
      else if statements.length ≤ watchedTogether then
        return (← plan.runTogether verb statements).flatten
      else return (← plan.runQueued verb statements).flatten) := by
    split
    · exact (EndsIn.mapM (plan.endsIn_run verb) statements).bind fun _ _ => EndsIn.pure trivial
    · split
      · exact ((EndsIn.forM (plan.endsIn_announce verb) statements).bind fun _ _ =>
          EndsIn.mapM (plan.endsIn_collect verb) statements).bind fun _ _ => EndsIn.pure trivial
      · exact (plan.endsIn_runQueued verb statements).bind fun _ _ => EndsIn.pure trivial
  unfold runBatches
  dsimp only
  split
  · exact (EndsIn.log _).bind fun _ _ => EndsIn.get.bind fun session _ => gathered session
  · exact EndsIn.get.bind fun session _ => gathered session

theorem endsIn_checkRequired (rows : List Record) :
    EndsIn (fun _ => True) executionKinds (Execution.ofExcept (plan.checkRequired verb rows)) := by
  refine EndsIn.ofExcept ?_
  unfold checkRequired
  split_ifs
  · exact List.mem_cons_of_mem _ List.mem_cons_self
  · exact trivial

variable {plan verb}

theorem endsIn_perform {statement : Statement} :
    EndsIn (fun _ => True) executionKinds (plan.perform verb (.ok statement)) :=
  (plan.endsIn_run verb statement).bind fun rows _ => plan.endsIn_checkRequired verb rows

theorem endsIn_performBatches {statements : List Statement} :
    EndsIn (fun _ => True) executionKinds (plan.performBatches verb (.ok statements)) :=
  (plan.endsIn_runBatches verb statements).bind fun rows _ => plan.endsIn_checkRequired verb rows

theorem endsIn_fetchCount {statement : Statement} (built : plan.count = .ok statement) :
    EndsIn (fun _ => True) executionKinds plan.fetchCount := by
  unfold fetchCount
  rw [built]
  refine (plan.endsIn_run .fetch statement).bind fun rows _ => ?_
  dsimp only
  split
  · exact EndsIn.pure trivial
  · exact EndsIn.throw (show "Decode" ∈ executionKinds by decide)

end Plan

/-- What an operation builds. -/
def Operation.request : Operation → BuildRequest
  | .fetch | .fetchFirst => .statement .select
  | .count => .statement .count
  | .insert rows => .statements (.inserts rows)
  | .insertFrom source => .statement (.insertFrom source)
  | .update record => .statement (.update record)
  | .updateMany records => .statements (.updateMany records)
  | .delete => .statement .delete

theorem Requires.singleton {own : List Requirement} {statement : Except Error Statement}
    (requires : Requires own statement) : Requires own (List.singleton <$> statement) := by
  rw [map_eq_pure_bind]
  exact requires.map

namespace Plan

variable {plan : Plan}

theorem requires_formatted (plan : Plan) (operation : Operation) :
    Requires (plan.buildRequirements operation.request) (plan.formatted operation) := by
  cases operation with
  | fetch => exact plan.requires_selectStatement.singleton
  | fetchFirst => exact plan.firstRow.requires_selectStatement.singleton
  | count => exact plan.requires_count.singleton
  | insert rows => exact plan.requires_inBatches rows .insert
  | insertFrom source => exact (plan.requires_insertFrom source).singleton
  | update record => exact (plan.requires_update record).singleton
  | updateMany records => exact plan.requires_inBatches records .updateBatch
  | delete => exact plan.requires_delete.singleton

theorem exists_of_singleton {statement : Except Error Statement} {statements : List Statement}
    (built : List.singleton <$> statement = .ok statements) : ∃ one, statement = .ok one := by
  cases statement with
  | ok one => exact ⟨one, rfl⟩
  | error error => exact nomatch built

theorem endsIn_carryOut {operation : Operation} {statements : List Statement}
    (built : plan.formatted operation = .ok statements) :
    EndsIn (fun _ => True) executionKinds (plan.carryOut operation) := by
  cases operation with
  | fetch =>
      obtain ⟨statement, selected⟩ := exists_of_singleton built
      rw [carryOut, fetch, selected]
      exact endsIn_perform.discard
  | fetchFirst =>
      obtain ⟨statement, selected⟩ := exists_of_singleton built
      have fetched : EndsIn (fun _ => True) executionKinds plan.fetchFirst := by
        rw [fetchFirst, fetch, selected]
        exact endsIn_perform.bind fun _ _ => EndsIn.pure trivial
      exact fetched.discard
  | count =>
      obtain ⟨statement, counted⟩ := exists_of_singleton built
      exact (endsIn_fetchCount counted).discard
  | insert rows =>
      rw [carryOut, insertRows, show plan.inserts rows = _ from built]
      exact endsIn_performBatches.discard
  | insertFrom source =>
      obtain ⟨statement, inserted⟩ := exists_of_singleton built
      rw [carryOut, insertRowsFrom, inserted]
      exact endsIn_perform.discard
  | update record =>
      obtain ⟨statement, updated⟩ := exists_of_singleton built
      rw [carryOut, updateRows, updated]
      exact endsIn_perform.discard
  | updateMany records =>
      rw [carryOut, updateAll, show plan.updateMany records = _ from built]
      exact endsIn_performBatches.discard
  | delete =>
      obtain ⟨statement, deleted⟩ := exists_of_singleton built
      rw [carryOut, deleteRows, deleted]
      exact endsIn_perform.discard

/-- Records that do not have the shape of the caller cannot be serialized. -/
theorem allows_read (record : Record) (shape : Shape) :
    Allows (fun _ => True) ["Serialization"] (record.read shape) := by
  unfold Record.read
  split
  · exact trivial
  · exact List.mem_singleton.2 rfl

theorem endsIn_fetch {statement : Statement} (selected : plan.select = .ok statement) :
    EndsIn (fun _ => True) ("Serialization" :: executionKinds) plan.fetch := by
  rw [fetch, selected]
  exact endsIn_perform.imp (fun _ => id) (List.subset_cons_self _ _)

theorem endsIn_fetchAs {statement : Statement} (selected : plan.select = .ok statement)
    (shape : Shape) :
    EndsIn (fun _ => True) ("Serialization" :: executionKinds) (plan.fetchAs shape) := by
  refine (endsIn_fetch selected).bind fun records _ => ?_
  have shaped : EndsIn (fun _ => True) ["Serialization"]
      (Execution.ofExcept (records.mapM (Record.read · shape))) :=
    EndsIn.ofExcept (Allows.mapM (allows_read · shape) records)
  exact shaped.imp (fun _ => id) (by decide)

theorem endsIn_fetchFirstAs {statement : Statement}
    (selected : plan.firstRow.select = .ok statement) (shape : Shape) :
    EndsIn (fun _ => True) ("Serialization" :: executionKinds) (plan.fetchFirstAs shape) := by
  have fetched : EndsIn (fun _ => True) ("Serialization" :: executionKinds) plan.fetchFirst :=
    (endsIn_fetch selected).bind fun _ _ => EndsIn.pure trivial
  refine fetched.bind fun record _ => ?_
  cases record with
  | none => exact EndsIn.pure trivial
  | some record =>
      have shaped : EndsIn (fun _ => True) ["Serialization"]
          (Execution.ofExcept (record.read shape)) :=
        EndsIn.ofExcept (allows_read record shape)
      dsimp only
      rw [map_eq_pure_bind]
      exact (shaped.imp (fun _ => id) (by decide)).bind fun _ _ => EndsIn.pure trivial

end Plan

theorem Error.isConfiguration_of_kind {error : Error}
    (executed : error.kind ∈ "Serialization" :: Plan.executionKinds) :
    error.isConfiguration = false := by
  cases error <;> first | rfl | exact absurd executed (by simp [kind, Plan.executionKinds])

/-- Where an error of a transaction comes from. -/
inductive TransactionError {α : Type} (block : Execution α) (session : Session) : Error → Prop
  | beginRefused {error : Error} : session.nextError? = some error →
      TransactionError block session error
  | commitRefused {error : Error} {value : α} {later : Session} :
      outcome block (session.afterStatement "BEGIN") = (.ok value, later) →
      later.nextError? = some error → TransactionError block session error
  | rolledBack {first : Error} {later : Session} :
      outcome block (session.afterStatement "BEGIN") = (.error first, later) →
      later.nextError? = none → TransactionError block session first
  | rollbackRefused {first second : Error} {later : Session} :
      outcome block (session.afterStatement "BEGIN") = (.error first, later) →
      later.nextError? = some second → TransactionError block session (.rollback first second)

theorem Execution.error_of_transaction {α : Type} {block : Execution α} {session last : Session}
    {error : Error} (failed : outcome (transaction block) session = (.error error, last)) :
    TransactionError block session error := by
  rw [outcome_transaction] at failed
  cases begun : session.nextError? with
  | some refused =>
      rw [begun] at failed
      cases failed
      exact .beginRefused begun
  | none =>
      rw [begun] at failed
      rcases ended : outcome block (session.afterStatement "BEGIN") with ⟨result, later⟩
      rw [ended] at failed
      cases result with
      | ok value =>
          dsimp only at failed
          rw [outcome_finish_ok] at failed
          cases refused : later.nextError? with
          | none =>
              rw [refused] at failed
              cases failed
          | some _ =>
              rw [refused] at failed
              cases failed
              exact .commitRefused ended refused
      | error first =>
          dsimp only at failed
          rw [outcome_finish_error] at failed
          cases refused : later.nextError? with
          | none =>
              rw [refused] at failed
              cases failed
              exact .rolledBack ended refused
          | some second =>
              rw [refused] at failed
              cases failed
              exact .rollbackRefused ended refused

theorem Error.isConfiguration_of_rollback {error : Error} (failed : error.kind = "Rollback") :
    error.isConfiguration = false := by
  cases error <;> first | rfl | exact absurd failed (by simp [kind])

namespace Plan

/-- Building succeeds if all requirements are met; else it fails with the error of the first one
that is not. -/
theorem build_of_firstUnmet (plan : Plan) (request : BuildRequest) :
    match Requirement.firstUnmet? (plan.buildRequirements request) with
    | none => plan.build request = .ok ()
    | some requirement => ∃ error, plan.build request = .error error ∧
        requirement.Explains error := by
  have built := (plan.requires_build request).outcome
  generalize Requirement.firstUnmet? (plan.buildRequirements request) = unmet at built ⊢
  cases unmet with
  | none =>
      obtain ⟨⟨⟩, built⟩ := built
      exact built
  | some requirement => exact built

/-- An operation that cannot be built leaves its session alone; one that is built fails only while
it is executed. -/
theorem carryOut_of_firstUnmet (plan : Plan) (operation : Operation) (session : Session) :
    match Requirement.firstUnmet? (plan.buildRequirements operation.request) with
    | none => ∀ error later, outcome (plan.carryOut operation) session = (.error error, later) →
        error.kind ∈ executionKinds ∧ error.isConfiguration = false
    | some requirement => ∃ error,
        outcome (plan.carryOut operation) session = (.error error, session) ∧
          requirement.Explains error := by
  have built := (plan.requires_formatted operation).outcome
  generalize Requirement.firstUnmet? (plan.buildRequirements operation.request) = unmet at built ⊢
  cases unmet with
  | none =>
      obtain ⟨statements, built⟩ := built
      intro error later failed
      have executed := (endsIn_carryOut built).kind_mem failed
      exact ⟨executed, Error.isConfiguration_of_kind (List.mem_cons_of_mem _ executed)⟩
  | some requirement =>
      obtain ⟨error, unbuilt, explained⟩ := built
      have sends := plan.sends_carryOut operation
      rw [unbuilt] at sends
      exact ⟨error, sends session, explained⟩

/-- Building succeeds if all requirements are met; else it fails with the error of the first one
that is not, and an operation then leaves its session alone.  It is a configuration error for what
is looked up, but not for names and rows.  Errors of an operation that has been built are not
configuration errors, and neither is that of a failed rollback. -/
theorem isConfiguration_of_errors (plan : Plan) :
    (∀ request : BuildRequest,
      match Requirement.firstUnmet? (plan.buildRequirements request) with
      | none => plan.build request = .ok ()
      | some requirement => ∃ error, plan.build request = .error error ∧
          requirement.Explains error) ∧
    (∀ (operation : Operation) (session : Session),
      match Requirement.firstUnmet? (plan.buildRequirements operation.request) with
      | none => ∀ error later, outcome (plan.carryOut operation) session = (.error error, later) →
          error.kind ∈ executionKinds ∧ error.isConfiguration = false
      | some requirement => ∃ error,
          outcome (plan.carryOut operation) session = (.error error, session) ∧
            requirement.Explains error) ∧
    (∀ (shape : Shape) (session : Session),
      Requirement.firstUnmet? (plan.buildRequirements (.statement .select)) = none →
      (∀ error later, outcome (plan.fetchAs shape) session = (.error error, later) →
        error.isConfiguration = false) ∧
      ∀ error later, outcome (plan.fetchFirstAs shape) session = (.error error, later) →
        error.isConfiguration = false) ∧
    ∀ {α : Type} (block : Execution α) (session : Session) (error : Error) (last : Session),
      outcome (transaction block) session = (.error error, last) →
      TransactionError block session error ∧
        (error.kind = "Rollback" → error.isConfiguration = false) := by
  refine ⟨plan.build_of_firstUnmet, plan.carryOut_of_firstUnmet, ?shapes, ?transactions⟩
  case shapes =>
    intro shape session met
    constructor
    · intro error later failed
      obtain ⟨statement, selected⟩ := plan.requires_selectStatement.exists_ok_of_met met
      exact Error.isConfiguration_of_kind ((endsIn_fetchAs selected shape).kind_mem failed)
    · intro error later failed
      obtain ⟨statement, selected⟩ := plan.firstRow.requires_selectStatement.exists_ok_of_met met
      exact Error.isConfiguration_of_kind ((endsIn_fetchFirstAs selected shape).kind_mem failed)
  case transactions =>
    intro α block session error last failed
    exact ⟨error_of_transaction failed, Error.isConfiguration_of_rollback⟩

/-- An update of nothing, a refused statement, notes that are no truth values, and a lost
connection. -/
theorem isConfiguration_of_openRange :
    (∃ error, Sample.openRange.build (.statement (.update [])) = .error error ∧
        (Requirement.rows Sample.account (some .noFieldsToUpdate)).Explains error) ∧
      (∃ error later, outcome ((Sample.notesWhere []).carryOut .fetch)
          (.start [.failure (.other "refused")] false) = (.error error, later) ∧
        error.kind ∈ executionKinds ∧ error.isConfiguration = false) ∧
      (∃ error later, outcome ((Sample.notesWhere []).fetchAs .truth)
          (.start [.rows [.positional [.null]]] false) = (.error error, later) ∧
        error.isConfiguration = false) ∧
      ∃ error last, outcome (transaction (Execution.perform "DELETE FROM account" []))
          Sample.lostConnection = (.error error, last) ∧
        TransactionError (Execution.perform "DELETE FROM account" []) Sample.lostConnection error ∧
        error.isConfiguration = false := by
  obtain ⟨building, -, -, transacting⟩ := isConfiguration_of_errors Sample.openRange
  obtain ⟨-, carrying, shaping, -⟩ := isConfiguration_of_errors (Sample.notesWhere [])
  have refused : outcome ((Sample.notesWhere []).carryOut .fetch)
      (.start [.failure (.other "refused")] false) = (.error _, _) := rfl
  have unshaped : outcome ((Sample.notesWhere []).fetchAs .truth)
      (.start [.rows [.positional [.null]]] false) = (.error _, _) := rfl
  have ended : outcome (transaction (Execution.perform "DELETE FROM account" []))
      Sample.lostConnection =
      (.error (.rollback (.other "refused") (.other "connection lost")), _) := rfl
  obtain ⟨origin, rolledBack⟩ := transacting _ _ _ _ ended
  have executed := carrying .fetch (.start [.failure (.other "refused")] false)
  have shaped := shaping .truth (.start [.rows [.positional [.null]]] false) rfl
  exact ⟨building (.statement (.update [])), ⟨_, _, refused, executed _ _ refused⟩,
    ⟨_, _, unshaped, shaped.1 _ _ unshaped⟩, ⟨_, _, ended, origin, rolledBack rfl⟩⟩

/-- The error of an update of nothing is raised while the statement is built, and yet it is no
configuration error. -/
theorem isConfiguration_of_emptyUpdate :
    ∃ error, Sample.openRange.build (.statement (.update [])) = .error error ∧
      error.isConfiguration = false :=
  ⟨.validation (.rows "Account" .noFieldsToUpdate), rfl, rfl⟩

end Plan

end EntityQuery

import EntityQuery.Proofs.Execution.Agreeing
import EntityQuery.Proofs.Execution.Operations
import EntityQuery.Proofs.Statement.Blindness

/-!
# Errors without bound values

Plans that differ in bound values, and do not keep values for debugging, end in errors that differ
at most in why a parameter could not be encoded.  So the words of an error reveal as much of the
values as the words of that reason do.  Those of a value of the wrong kind show the value.
-/

namespace EntityQuery

open Outcome Execution

variable {related : Json → Json → Prop}

/-- Operations that differ in the values of rows, or in bound values of their source. -/
inductive Operation.Alike (related : Json → Json → Prop) : Operation → Operation → Prop
  | fetch : Operation.Alike related .fetch .fetch
  | fetchFirst : Operation.Alike related .fetchFirst .fetchFirst
  | count : Operation.Alike related .count .count
  | insert {rows others : List Record} : List.Forall₂ (Record.Related related) rows others →
      Operation.Alike related (.insert rows) (.insert others)
  | insertFrom {source opposite : InsertSource} :
      StatementRequest.Alike related (.insertFrom source) (.insertFrom opposite) →
      Operation.Alike related (.insertFrom source) (.insertFrom opposite)
  | update {record other : Record} : Record.Related related record other →
      Operation.Alike related (.update record) (.update other)
  | updateMany {records others : List Record} :
      List.Forall₂ (Record.Related related) records others →
      Operation.Alike related (.updateMany records) (.updateMany others)
  | delete : Operation.Alike related .delete .delete

namespace Plan

/-- Plans that report on their statements in the same way, and without values. -/
structure ReportsAlike (plan other : Plan) : Prop where
  entity : plan.entity.name = other.entity.name
  require : plan.settings.require = other.settings.require
  redacted : plan.settings.debug = false
  othersRedacted : other.settings.debug = false

theorem Alike.reports {plan other : Plan} (plans : Plan.Alike related plan other)
    (redacted : plan.settings.debug = false) : plan.ReportsAlike other := by
  cases plans with
  | mk _ _ _ _ _ settings =>
      refine ⟨rfl, ?_, redacted, ?_⟩
      · rw [settings.others]
      · rw [settings.others]
        exact redacted

theorem Alike.firstRow {plan other : Plan} (plans : Plan.Alike related plan other) :
    Plan.Alike related plan.firstRow other.firstRow := by
  cases plans with
  | mk entity tableAlias columns filter having settings joins =>
      refine .mk entity tableAlias columns filter having ⟨settings.groupBy, settings.orderBy, ?_⟩
        joins
      rw [settings.others]

theorem Alike.batchSize_eq {plan other : Plan} (plans : Plan.Alike related plan other) :
    plan.batchSize = other.batchSize := by
  cases plans with
  | mk _ _ _ _ _ settings =>
      unfold batchSize
      dsimp only
      rw [settings.others]

section Running

variable {plan other : Plan} (reports : plan.ReportsAlike other) (verb : Verb)

include reports

theorem alike_refusal {statement twin : Statement}
    (statements : Statement.Alike related statement twin) {error opposite : Error}
    (errors : Error.Alike error opposite) :
    Error.Alike (plan.refusal verb statement error) (other.refusal verb twin opposite) := by
  unfold refusal Statement.toFailed
  rw [reports.redacted, reports.othersRedacted, ← reports.entity, ← statements.sql]
  exact .execute verb plan.entity.name statement.sql errors

theorem agree_announce {statement twin : Statement}
    (statements : Statement.Alike related statement twin) :
    Agree (fun _ _ => True) (plan.announce verb statement) (other.announce verb twin) := by
  have checked : statement.validate = twin.validate := by
    unfold Statement.validate Statement.isAligned Statement.placeholderCount
    rw [statements.sql, statements.values.length_eq]
  have ends : Ends (fun _ _ => True) (statement.validate.mapError (plan.refusal verb statement))
      (twin.validate.mapError (other.refusal verb twin)) := by
    rw [← checked]
    cases statement.validate with
    | ok _ => exact .ok trivial
    | error error => exact .error (alike_refusal reports verb statements (.same error))
  refine (Agree.ofExcept ends).bind fun _ _ _ => ?_
  exact (Agree.log _ _).bind fun _ _ _ => Agree.send _ _ _ _

theorem agree_collect {statement twin : Statement}
    (statements : Statement.Alike related statement twin) :
    Agree Eq (plan.collect verb statement) (other.collect verb twin) := by
  have received := Agree.receive.mapError fun _ _ => alike_refusal reports verb statements
  refine received.bind ?_
  rintro rows _ rfl
  rw [statements.aliases]
  exact Agree.ofExcept (.of_matches (Matches.refl _))

theorem agree_run {statement twin : Statement}
    (statements : Statement.Alike related statement twin) :
    Agree Eq (plan.run verb statement) (other.run verb twin) :=
  (agree_announce reports verb statements).bind fun _ _ _ => agree_collect reports verb statements

variable {statements twins : List Statement}

theorem agree_runInTurn (paired : List.Forall₂ (Statement.Alike related) statements twins) :
    Agree (List.Forall₂ Eq) (plan.runInTurn verb statements) (other.runInTurn verb twins) := by
  have each (statement twin : Statement) (alike : Statement.Alike related statement twin) :
      Agree Eq (plan.run verb statement) (other.run verb twin) := agree_run reports verb alike
  exact Agree.mapM each paired

theorem agree_runTogether (paired : List.Forall₂ (Statement.Alike related) statements twins) :
    Agree (List.Forall₂ Eq) (plan.runTogether verb statements) (other.runTogether verb twins) := by
  have announced (statement twin : Statement) (alike : Statement.Alike related statement twin) :
      Agree (fun _ _ => True) (plan.announce verb statement) (other.announce verb twin) :=
    agree_announce reports verb alike
  have collected (statement twin : Statement) (alike : Statement.Alike related statement twin) :
      Agree Eq (plan.collect verb statement) (other.collect verb twin) :=
    agree_collect reports verb alike
  exact (Agree.forM announced paired).bind fun _ _ _ => Agree.mapM collected paired

theorem agree_collectQueued {announced opposite : List (Statement × Except Error Unit)}
    (paired : List.Forall₂ (fun entry twin => Statement.Alike related entry.1 twin.1 ∧
      Ends (fun _ _ => True) entry.2 twin.2) announced opposite) :
    Agree (List.Forall₂ Eq) (plan.collectQueued verb announced)
      (other.collectQueued verb opposite) := by
  induction paired with
  | nil => exact .pure .nil
  | cons head _ ih =>
      refine (Agree.ofExcept head.2).bind fun _ _ _ => ?_
      refine (agree_collect reports verb head.1).bind fun _ _ first => ?_
      exact ih.bind fun _ _ others => .pure (.cons first others)

theorem agree_runQueued (paired : List.Forall₂ (Statement.Alike related) statements twins) :
    Agree (List.Forall₂ Eq) (plan.runQueued verb statements) (other.runQueued verb twins) := by
  cases paired with
  | nil => exact .pure .nil
  | cons head rest =>
      refine (agree_announce reports verb head).bind fun _ _ _ => ?_
      have announced (statement twin : Statement) (alike : Statement.Alike related statement twin) :
          Agree (Ends fun _ _ => True) (plan.announce verb statement).attempt
            (other.announce verb twin).attempt := (agree_announce reports verb alike).attempt
      refine (Agree.mapM announced rest).bind fun results endings ends => ?_
      exact agree_collectQueued reports verb (.cons ⟨head, .ok trivial⟩ (forall₂_zip rest ends))

theorem agree_runBatches (paired : List.Forall₂ (Statement.Alike related) statements twins) :
    Agree Eq (plan.runBatches verb statements) (other.runBatches verb twins) := by
  have joined {execution opposite : Execution (List (List Record))}
      (agree : Agree (List.Forall₂ Eq) execution opposite) :
      Agree Eq (do return (← execution).flatten) (do return (← opposite).flatten) := by
    refine agree.bind fun groups others same => .pure ?_
    rw [List.forall₂_eq_eq_eq] at same
    rw [same]
  -- The three ways of running are chosen by what the two connections have in common.
  have gathered (session twin : Session) (sessions : session.Alike twin) : Agree Eq (do
      if !session.overlapping then return (← plan.runInTurn verb statements).flatten
      else if statements.length ≤ watchedTogether then
        return (← plan.runTogether verb statements).flatten
      else return (← plan.runQueued verb statements).flatten) (do
      if !twin.overlapping then return (← other.runInTurn verb twins).flatten
      else if statements.length ≤ watchedTogether then
        return (← other.runTogether verb twins).flatten
      else return (← other.runQueued verb twins).flatten) := by
    rw [← sessions.overlapping]
    split_ifs
    · exact joined (agree_runInTurn reports verb paired)
    · exact joined (agree_runTogether reports verb paired)
    · exact joined (agree_runQueued reports verb paired)
  have chosen := Agree.get.bind gathered
  unfold runBatches
  dsimp only
  rw [← paired.length_eq]
  by_cases several : 1 < statements.length
  · rw [if_pos several, if_pos several]
    exact (Agree.log _ _).bind fun _ _ _ => chosen
  · rw [if_neg several, if_neg several]
    exact chosen

theorem agree_checkRequired (rows : List Record) :
    Ends Eq (plan.checkRequired verb rows) (other.checkRequired verb rows) := by
  unfold checkRequired
  rw [← reports.require, ← reports.entity]
  exact .of_matches (Matches.refl _)

theorem agree_perform {statement twin : Except Error Statement}
    (matched : Matches (Statement.Alike related) statement twin) :
    Agree Eq (plan.perform verb statement) (other.perform verb twin) := by
  refine (Agree.ofExcept (.of_matches matched)).bind fun _ _ statements => ?_
  refine (agree_run reports verb statements).bind ?_
  rintro rows _ rfl
  exact Agree.ofExcept (agree_checkRequired reports verb rows)

theorem agree_performBatches {statements twins : Except Error (List Statement)}
    (matched : Matches (List.Forall₂ (Statement.Alike related)) statements twins) :
    Agree Eq (plan.performBatches verb statements) (other.performBatches verb twins) := by
  refine (Agree.ofExcept (.of_matches matched)).bind fun _ _ paired => ?_
  refine (agree_runBatches reports verb paired).bind ?_
  rintro rows _ rfl
  exact Agree.ofExcept (agree_checkRequired reports verb rows)

end Running

theorem matches_inBatches {plan other : Plan} (plans : Plan.Alike related plan other)
    {rows others : List Record} (paired : List.Forall₂ (Record.Related related) rows others)
    {build compose : List Record → Except Error Statement}
    (each : ∀ batch opposite, List.Forall₂ (Record.Related related) batch opposite →
      Matches (Statement.Alike related) (build batch) (compose opposite)) :
    Matches (List.Forall₂ (Statement.Alike related))
      (do let _ ← plan.scope; let batches ← plan.batches rows; batches.mapM build)
      (do let _ ← other.scope; let batches ← other.batches others; batches.mapM compose) :=
  (matches_scope plans.blind).bind fun _ _ _ =>
    (matches_batches plans.batchSize_eq paired).bind fun _ _ batches => Matches.mapM batches each

theorem agree_fetchCount {plan other : Plan} (plans : Plan.Alike related plan other)
    (reports : plan.ReportsAlike other) : Agree Eq plan.fetchCount other.fetchCount := by
  have matched := matches_statement_of_alike plans StatementRequest.Alike.count
  refine (Agree.ofExcept (.of_matches matched)).bind fun _ _ statements => ?_
  refine (agree_run reports .fetch statements).bind ?_
  rintro rows _ rfl
  dsimp only
  split
  · exact .pure rfl
  · exact .throw _

/-- Alike operations of alike plans agree, if no values are kept for debugging. -/
theorem agree_carryOut {plan other : Plan} (plans : Plan.Alike related plan other)
    (redacted : plan.settings.debug = false) {operation opposite : Operation}
    (operations : Operation.Alike related operation opposite) :
    Agree (fun _ _ => True) (plan.carryOut operation) (other.carryOut opposite) := by
  have reports := plans.reports redacted
  have matched {request opposite : StatementRequest}
      (requests : StatementRequest.Alike related request opposite) :=
    matches_statement_of_alike plans requests
  cases operations with
  | fetch => exact (agree_perform reports .fetch (matched .select)).discard
  | fetchFirst =>
      have selected := matches_statement_of_alike plans.firstRow StatementRequest.Alike.select
      have fetched := agree_perform (plans.firstRow.reports redacted) .fetch selected
      have first : Agree Eq plan.fetchFirst other.fetchFirst := by
        refine fetched.bind ?_
        rintro rows _ rfl
        exact .pure rfl
      exact first.discard
  | count => exact (agree_fetchCount plans reports).discard
  | insert rows =>
      have batched := matches_inBatches plans rows fun _ _ batch => matched (.insert batch)
      exact (agree_performBatches reports .insert batched).discard
  | insertFrom sources => exact (agree_perform reports .insert (matched sources)).discard
  | update record => exact (agree_perform reports .update (matched (.update record))).discard
  | updateMany records =>
      have batched := matches_inBatches plans records fun _ _ batch => matched (.updateBatch batch)
      exact (agree_performBatches reports .update batched).discard
  | delete => exact (agree_perform reports .delete (matched .delete)).discard

end Plan

/-- The words of a driver that adds the reason why a parameter could not be encoded. -/
def QueryFault.messageWith (reason : Postgres.EncodeFault → String) : QueryFault → String
  | .parameter position fault =>
      "error serializing parameter " ++ toString position ++ ": " ++ reason fault
  | fault => fault.message

theorem QueryFault.messageWith_eq_iff {reason excuse : Postgres.EncodeFault → String}
    {position : Nat} {fault other : Postgres.EncodeFault} :
    QueryFault.messageWith reason (.parameter position fault) =
        QueryFault.messageWith excuse (.parameter position other) ↔ reason fault = excuse other :=
  String.append_right_inj _

namespace Error

/-- The words around the reason of an error that was wrapped are the same in both errors. -/
theorem messageBy_execute_eq_iff {words terms : QueryFault → String} (verb : Verb)
    (entity sql : String) {source opposite : Error} :
    (execute verb entity ⟨sql, none⟩ source).messageBy words =
        (execute verb entity ⟨sql, none⟩ opposite).messageBy terms ↔
      source.messageBy words = opposite.messageBy terms := by
  have wrapped (words : QueryFault → String) (source : Error) :
      (execute verb entity ⟨sql, none⟩ source).messageBy words =
        entity ++ ": " ++ verb.name ++ " failed: " ++ source.messageBy words ++ " (" ++
          FailedStatement.message ⟨sql, none⟩ ++ ")" := rfl
  rw [wrapped, wrapped, String.append_left_inj, String.append_left_inj, String.append_left_inj,
    String.append_right_inj]

theorem Alike.message_eq {error other : Error} (alike : Error.Alike error other) :
    error.message = other.message := by
  induction alike with
  | same error => rfl
  | parameter position => rfl
  | execute verb entity sql _ ih => exact (messageBy_execute_eq_iff verb entity sql).2 ih

/-- The errors read the same, or they would if the driver gave the same reason why one parameter
could not be encoded as the type that the server expects of it. -/
inductive ReadAlike (error other : Error) : Prop
  | always : (∀ words, error.messageBy words = other.messageBy words) → ReadAlike error other
  | unencoded {type : Postgres.ServerType} {value twin : Json}
      {fault opposite : Postgres.EncodeFault} : type.encodeNullable value = .error fault →
      type.encodeNullable twin = .error opposite →
      (∀ reason excuse, error.messageBy (QueryFault.messageWith reason) =
        other.messageBy (QueryFault.messageWith excuse) ↔ reason fault = excuse opposite) →
      ReadAlike error other

theorem Alike.readAlike {error other : Error} (alike : Error.Alike error other) :
    error.ReadAlike other := by
  induction alike with
  | same error => exact .always fun _ => rfl
  | parameter position unencoded twinUnencoded =>
      refine .unencoded unencoded twinUnencoded fun reason excuse => ?_
      exact (String.append_right_inj _).trans QueryFault.messageWith_eq_iff
  | execute verb entity sql _ ih =>
      cases ih with
      | always same =>
          exact .always fun words => (messageBy_execute_eq_iff verb entity sql).2 (same words)
      | unencoded unencoded twinUnencoded same =>
          refine .unencoded unencoded twinUnencoded fun reason excuse => ?_
          exact (messageBy_execute_eq_iff verb entity sql).trans (same reason excuse)

end Error

namespace Postgres

/-- The first parameter that cannot be encoded is the error. -/
theorem unencoded_of_encodeParameters {entries : List (ServerType × Json)} {start : Nat}
    {error : Error} (failed : encodeParameters start entries = .error error) :
    ∃ index type value fault, entries[index]? = some (type, value) ∧
      type.encodeNullable value = .error fault ∧
      error = .query (.parameter (start + index) fault) := by
  induction entries generalizing start with
  | nil => cases failed
  | cons entry rest ih =>
      obtain ⟨type, value⟩ := entry
      rw [encodeParameters] at failed
      cases encoded : type.encodeNullable value with
      | error fault =>
          rw [encoded] at failed
          cases failed
          exact ⟨0, type, value, fault, rfl, encoded, rfl⟩
      | ok bytes =>
          rw [encoded] at failed
          cases later : encodeParameters (start + 1) rest with
          | ok others =>
              rw [later] at failed
              cases failed
          | error other =>
              rw [later] at failed
              cases failed
              obtain ⟨index, type, value, fault, found, unencoded, rfl⟩ := ih later
              refine ⟨index + 1, type, value, fault, found, unencoded, ?_⟩
              rw [Nat.add_assoc, Nat.add_comm 1]

/-- A server that cannot be sent the same parameter of two lists of values replies alike. -/
theorem alike_of_bindValues {types : List ServerType} {values others : List Json} {position : Nat}
    {fault opposite : EncodeFault}
    (failed : bindValues types values = .error (.query (.parameter position fault)))
    (otherFailed : bindValues types others = .error (.query (.parameter position opposite))) :
    Error.Alike (.query (.parameter position fault)) (.query (.parameter position opposite)) := by
  unfold bindValues at failed otherFailed
  split at failed
  · split at otherFailed
    · obtain ⟨index, type, value, _, found, unencoded, same⟩ := unencoded_of_encodeParameters failed
      obtain ⟨place, kind, twin, _, twinFound, twinUnencoded, twinSame⟩ :=
        unencoded_of_encodeParameters otherFailed
      simp only [Error.query.injEq, QueryFault.parameter.injEq, Nat.zero_add] at same twinSame
      obtain ⟨rfl, rfl⟩ := same
      obtain ⟨rfl, rfl⟩ := twinSame
      have expected := (List.getElem?_zip_eq_some.1 found).1
      rw [(List.getElem?_zip_eq_some.1 twinFound).1] at expected
      obtain rfl := Option.some.inj expected
      exact .parameter position unencoded twinUnencoded
    · cases otherFailed
  · cases failed

end Postgres

/-- Operations that differ in bound values, on connections that reply alike, both succeed or both
fail.  If no values are kept for debugging, their errors read the same, except that a driver may
say why a parameter could not be encoded; then they read the same exactly if its reasons do. -/
theorem Plan.errors_of_carryOut {plan other : Plan} (plans : Plan.Alike related plan other)
    (redacted : plan.settings.debug = false) {operation opposite : Operation}
    (operations : Operation.Alike related operation opposite) {session twin : Session}
    (sessions : session.Alike twin) :
    match (outcome (plan.carryOut operation) session).1,
      (outcome (other.carryOut opposite) twin).1 with
    | .ok _, .ok _ => True
    | .error error, .error fault => error.message = fault.message ∧ error.ReadAlike fault
    | _, _ => False := by
  have ended := (agree_carryOut plans redacted operations session twin sessions).1
  generalize (outcome (plan.carryOut operation) session).1 = result at ended ⊢
  generalize (outcome (other.carryOut opposite) twin).1 = ending at ended ⊢
  cases ended with
  | ok _ => trivial
  | error alike => exact ⟨alike.message_eq, alike.readAlike⟩

namespace Sample

/-- A note cannot be bound where the server expects a number. -/
def unboundNote (text : String) : Error :=
  .query (.parameter 0 (.mismatch (.string text) (.plain (.scalar .int4))))

/-- A connection to a server that expects a number where the notes are compared. -/
def numericNotes (text : String) : Session := .start [.failure (unboundNote text)] false

/-- The notes that are asked for are a plain text, and one with quotes and a question mark. -/
theorem alike_notesOf :
    Plan.Alike Swapped (notesOf "x") (notesOf "' OR '?'='?") :=
  .mk _ _ (.cons "note" (.field "note") .nil)
    (.cons
      (.condition (.compare .equalTo (.name "note") (.value (.plain rfl rfl ⟨rfl, rfl⟩)))) .nil)
    .nil ⟨.nil, .nil, rfl⟩ .nil

theorem bindValues_note (text : String) (noNumber : Numeral.signedWithin? 64 text = none) :
    Postgres.bindValues [.plain (.scalar .int4)] [.string text] = .error (unboundNote text) := by
  have mismatched : (Postgres.ServerType.plain (.scalar .int4)).encodeNullable (.string text) =
      .error (.mismatch (.string text) (.plain (.scalar .int4))) := by
    change some <$> Postgres.ScalarType.encodeWhole .int4 4 _ _ (.string text) = _
    unfold Postgres.ScalarType.encodeWhole Postgres.wholeNumber?
    dsimp only
    rw [noNumber]
    rfl
  change Postgres.encodeParameters 0 [(_, _)] = _
  rw [Postgres.encodeParameters, mismatched]
  rfl

theorem alike_numericNotes : (numericNotes "x").Alike (numericNotes "' OR '?'='?") := by
  have unbound := Postgres.alike_of_bindValues (bindValues_note "x" (by decide +kernel))
    (bindValues_note "' OR '?'='?" (by decide +kernel))
  exact ⟨.cons (.failure unbound) .nil, rfl⟩

/-- The statement that asks for notes. -/
def notesStatement (text : String) : Statement :=
  ⟨"SELECT \"a?\".\"note?\" FROM account AS \"a?\" WHERE \"a?\".\"note?\" = ?", [.string text],
    ["note"]⟩

theorem validate_notesStatement (text : String) : (notesStatement text).validate = .ok () := by
  have counted : (notesStatement "").placeholderCount = 1 := by decide +kernel
  exact Statement.validate_eq_ok.2 counted

set_option maxRecDepth 10000 in
theorem select_notesOf {text : String} (swapped : text = "x" ∨ text = "' OR '?'='?") :
    (notesOf text).select = .ok (notesStatement text) := by
  rcases swapped with rfl | rfl
  · rfl
  · rfl

theorem outcome_fetch_numericNotes {text : String} (swapped : text = "x" ∨ text = "' OR '?'='?") :
    (outcome ((notesOf text).carryOut .fetch) (numericNotes text)).1 =
      .error ((notesOf text).refusal .fetch (notesStatement text) (unboundNote text)) := by
  have given : Execution.ofExcept (.ok (notesStatement text)) = pure (notesStatement text) := rfl
  unfold Plan.carryOut Plan.fetch Plan.perform
  dsimp only
  rw [select_notesOf swapped, given, pure_bind]
  unfold Plan.run Plan.announce
  rw [validate_notesStatement]
  rfl

end Sample

theorem Plan.errors_of_notes :
    Plan.Alike Sample.Swapped (Sample.notesOf "x") (Sample.notesOf "' OR '?'='?") ∧
      (Sample.notesOf "x").settings.debug = false ∧
      Operation.Alike Sample.Swapped .fetch .fetch ∧
      (Sample.numericNotes "x").Alike (Sample.numericNotes "' OR '?'='?") ∧
      ∃ error fault,
        (outcome ((Sample.notesOf "x").carryOut .fetch) (Sample.numericNotes "x")).1 =
          .error error ∧
        (outcome ((Sample.notesOf "' OR '?'='?").carryOut .fetch)
          (Sample.numericNotes "' OR '?'='?")).1 = .error fault ∧
        error.message = fault.message ∧ error.ReadAlike fault := by
  have ended := Plan.errors_of_carryOut Sample.alike_notesOf rfl .fetch Sample.alike_numericNotes
  rw [Sample.outcome_fetch_numericNotes (.inl rfl),
    Sample.outcome_fetch_numericNotes (.inr rfl)] at ended
  exact ⟨Sample.alike_notesOf, rfl, .fetch, Sample.alike_numericNotes, _, _,
    Sample.outcome_fetch_numericNotes (.inl rfl), Sample.outcome_fetch_numericNotes (.inr rfl),
    ended⟩

/-- A driver that adds the reason shows the text that could not be bound as a number. -/
theorem Plan.errors_differ_of_notes :
    Plan.Alike Sample.Swapped (Sample.notesOf "x") (Sample.notesOf "' OR '?'='?") ∧
      (Sample.notesOf "x").settings.debug = false ∧
      Postgres.bindValues [.plain (.scalar .int4)] [.string "x"] =
        .error (Sample.unboundNote "x") ∧
      Postgres.bindValues [.plain (.scalar .int4)] [.string "' OR '?'='?"] =
        .error (Sample.unboundNote "' OR '?'='?") ∧
      ∃ error fault,
        (outcome ((Sample.notesOf "x").carryOut .fetch) (Sample.numericNotes "x")).1 =
          .error error ∧
        (outcome ((Sample.notesOf "' OR '?'='?").carryOut .fetch)
          (Sample.numericNotes "' OR '?'='?")).1 = .error fault ∧
        ∀ reason : Postgres.EncodeFault → String,
          (∀ cause text, cause.message? = some text → reason cause = text) →
          error.messageBy (QueryFault.messageWith reason) ≠
            fault.messageBy (QueryFault.messageWith reason) := by
  refine ⟨Sample.alike_notesOf, rfl, Sample.bindValues_note "x" (by decide +kernel),
    Sample.bindValues_note "' OR '?'='?" (by decide +kernel), _, _,
    Sample.outcome_fetch_numericNotes (.inl rfl), Sample.outcome_fetch_numericNotes (.inr rfl),
    fun reason own same => ?_⟩
  have reasons := (Error.messageBy_execute_eq_iff _ _ _).1 same
  have texts := QueryFault.messageWith_eq_iff.1 ((String.append_right_inj _).1 reasons)
  rw [own _ _ rfl, own _ _ rfl] at texts
  revert texts
  decide +kernel

end EntityQuery

import EntityQuery.Execution.Transaction
import EntityQuery.Proofs.Execution.Operations

/-!
# The course of a transaction

A transaction sends BEGIN before the statements of its block and one of COMMIT and ROLLBACK after
them, whatever the connection replies.  Its result is the value of the block only if COMMIT was
accepted, and it carries the error of the block in any case.
-/

namespace EntityQuery

namespace Session

/-- The error that the next statement is answered with, if it fails. -/
def nextError? (session : Session) : Option Error :=
  match session.replies with
  | .failure error :: _ => some error
  | _ => none

/-- The session after a statement without values, whose reply has been taken. -/
def afterStatement (session : Session) (sql : String) : Session :=
  { session with replies := session.replies.tail, sent := session.sent ++ [⟨sql, []⟩] }

@[simp]
theorem sent_afterStatement (session : Session) (sql : String) :
    (session.afterStatement sql).sent = session.sent ++ [⟨sql, []⟩] :=
  rfl

end Session

namespace Execution

variable {α β : Type}

theorem outcome_perform (session : Session) (sql : String) :
    outcome (perform sql []) session =
      (match session.nextError? with
        | none => .ok ()
        | some error => .error error, session.afterStatement sql) := by
  obtain ⟨replies, overlapping, sent, events⟩ := session
  cases replies with
  | nil => rfl
  | cons reply rest =>
      cases reply with
      | rows _ => rfl
      | failure _ => rfl

/-- The execution only adds to what its session has sent. -/
def Adds (execution : Execution α) : Prop :=
  ∀ session : Session, session.sent <+: (outcome execution session).2.sent

theorem Sends.adds {statements : List Statement} {execution : Execution α}
    (sends : Sends statements execution) : Adds execution := by
  intro session
  obtain ⟨handed, -, -, sent⟩ := sends session
  rw [sent]
  exact List.prefix_append _ _

namespace Adds

variable {execution : Execution α}

theorem bind {next : α → Execution β} (first : Adds execution)
    (second : ∀ value, Adds (next value)) : Adds (execution >>= next) := by
  intro session
  have added := first session
  rw [outcome_bind]
  generalize outcome execution session = reached at added ⊢
  obtain ⟨result, later⟩ := reached
  cases result with
  | error error => exact added
  | ok value => exact added.trans (second value later)

theorem pure (value : α) : Adds (pure value : Execution α) := (Sends.pure value).adds

theorem perform (sql : String) : Adds (perform sql []) := by
  intro session
  rw [outcome_perform]
  exact List.prefix_append _ _

/-- An operation that cannot be formatted sends nothing at all. -/
theorem carryOut (plan : Plan) (operation : Operation) : Adds (plan.carryOut operation) := by
  have sends := plan.sends_carryOut operation
  cases formatted : plan.formatted operation with
  | ok statements =>
      rw [formatted] at sends
      exact Sends.adds sends
  | error error =>
      rw [formatted] at sends
      intro session
      have kept := congrArg (fun reached => reached.2.sent) (sends session)
      exact ⟨[], (List.append_nil session.sent).trans kept.symm⟩

/-- The usual block: operations one after the other, up to the first that fails. -/
theorem operations (steps : List (Plan × Operation)) :
    Adds (steps.forM fun step => step.1.carryOut step.2) := by
  induction steps with
  | nil => exact Adds.pure ()
  | cons step rest ih => exact (Adds.carryOut step.1 step.2).bind fun _ => ih

end Adds

/-- How a transaction can go: what it sends, what it ends in, and the session that it leaves. -/
inductive Course (block : Execution α) (session : Session) :
    List Request → Except Error α × Session → Prop
  /-- BEGIN fails, and the block is not run. -/
  | refused {error : Error} : session.nextError? = some error →
      Course block session [⟨"BEGIN", []⟩] (.error error, session.afterStatement "BEGIN")
  /-- The block ends in a value, which is the result once COMMIT is accepted. -/
  | committed {own : List Request} {value : α} {later : Session} :
      session.nextError? = none →
      outcome block (session.afterStatement "BEGIN") = (.ok value, later) →
      later.sent = session.sent ++ [⟨"BEGIN", []⟩] ++ own → later.nextError? = none →
      Course block session ([⟨"BEGIN", []⟩] ++ own ++ [⟨"COMMIT", []⟩])
        (.ok value, later.afterStatement "COMMIT")
  | commitFailed {own : List Request} {value : α} {later : Session} {error : Error} :
      session.nextError? = none →
      outcome block (session.afterStatement "BEGIN") = (.ok value, later) →
      later.sent = session.sent ++ [⟨"BEGIN", []⟩] ++ own → later.nextError? = some error →
      Course block session ([⟨"BEGIN", []⟩] ++ own ++ [⟨"COMMIT", []⟩])
        (.error error, later.afterStatement "COMMIT")
  /-- The block ends in an error, which is the result once ROLLBACK is accepted. -/
  | rolledBack {own : List Request} {first : Error} {later : Session} :
      session.nextError? = none →
      outcome block (session.afterStatement "BEGIN") = (.error first, later) →
      later.sent = session.sent ++ [⟨"BEGIN", []⟩] ++ own → later.nextError? = none →
      Course block session ([⟨"BEGIN", []⟩] ++ own ++ [⟨"ROLLBACK", []⟩])
        (.error first, later.afterStatement "ROLLBACK")
  | rollbackFailed {own : List Request} {first second : Error} {later : Session} :
      session.nextError? = none →
      outcome block (session.afterStatement "BEGIN") = (.error first, later) →
      later.sent = session.sent ++ [⟨"BEGIN", []⟩] ++ own → later.nextError? = some second →
      Course block session ([⟨"BEGIN", []⟩] ++ own ++ [⟨"ROLLBACK", []⟩])
        (.error (.rollback first second),
          { later.afterStatement "ROLLBACK" with
            events := later.events ++ [.rollbackFailed first second] })

namespace Course

variable {block : Execution α} {session last : Session} {trace : List Request}
  {result : Except Error α}

theorem sent_eq (course : Course block session trace (result, last)) :
    last.sent = session.sent ++ trace := by
  cases course with
  | refused => rfl
  | committed _ _ sent | commitFailed _ _ sent | rolledBack _ _ sent | rollbackFailed _ _ sent =>
      simp [sent]

/-- A transaction gives a value only after the block gave it and COMMIT was accepted. -/
theorem of_ok {value : α} (course : Course block session trace (.ok value, last)) :
    ∃ own later, outcome block (session.afterStatement "BEGIN") = (.ok value, later) ∧
      trace = [⟨"BEGIN", []⟩] ++ own ++ [⟨"COMMIT", []⟩] ∧ later.nextError? = none := by
  cases course with
  | committed _ ended _ accepted => exact ⟨_, _, ended, rfl, accepted⟩

/-- The error of a block is the result, or the result carries it beside that of ROLLBACK. -/
theorem of_error {first : Error} {later : Session}
    (course : Course block session trace (result, last)) (begun : session.nextError? = none)
    (ended : outcome block (session.afterStatement "BEGIN") = (.error first, later)) :
    result = .error first ∨ ∃ second, result = .error (.rollback first second) := by
  cases course with
  | refused failed => rw [begun] at failed; contradiction
  | committed _ other | commitFailed _ other =>
      rw [ended] at other
      cases other
  | rolledBack _ other =>
      rw [ended] at other
      cases other
      exact .inl rfl
  | rollbackFailed _ other =>
      rw [ended] at other
      cases other
      exact .inr ⟨_, rfl⟩

end Course

theorem outcome_transaction (block : Execution α) (session : Session) :
    outcome (transaction block) session =
      match session.nextError? with
      | some error => (.error error, session.afterStatement "BEGIN")
      | none =>
          outcome (finish (outcome block (session.afterStatement "BEGIN")).1)
            (outcome block (session.afterStatement "BEGIN")).2 := by
  unfold transaction
  rw [outcome_bind, outcome_perform]
  cases session.nextError? with
  | some error => rfl
  | none => rfl

theorem outcome_finish_ok (value : α) (session : Session) :
    outcome (finish (.ok value)) session =
      (match session.nextError? with
        | none => .ok value
        | some error => .error error, session.afterStatement "COMMIT") := by
  rw [finish, outcome_bind, outcome_perform]
  cases session.nextError? with
  | none => rfl
  | some error => rfl

theorem outcome_finish_error (first : Error) (session : Session) :
    outcome (finish (.error first : Except Error α)) session =
      match session.nextError? with
      | none => (.error first, session.afterStatement "ROLLBACK")
      | some second =>
          (.error (.rollback first second),
            { session.afterStatement "ROLLBACK" with
              events := session.events ++ [.rollbackFailed first second] }) := by
  have attempted : outcome (perform "ROLLBACK" []).attempt session =
      (.ok (outcome (perform "ROLLBACK" []) session).1, session.afterStatement "ROLLBACK") := by
    rw [outcome_perform]
    exact congrArg (fun reached => (Except.ok reached.1, reached.2)) (outcome_perform session _)
  rw [finish, outcome_bind, attempted, outcome_perform]
  cases session.nextError? with
  | none => rfl
  | some second => rfl

/-- A block that ends on its session is finished on the same session. -/
theorem course_of_ended {block : Execution α} {session later : Session} {result : Except Error α}
    (begun : session.nextError? = none)
    (ended : outcome block (session.afterStatement "BEGIN") = (result, later))
    (added : session.sent ++ [⟨"BEGIN", []⟩] <+: later.sent) :
    ∃ trace, Course block session trace (outcome (finish result) later) := by
  obtain ⟨own, sent⟩ := added
  cases result with
  | ok value =>
      rw [outcome_finish_ok]
      cases accepted : later.nextError? with
      | none => exact ⟨_, .committed begun ended sent.symm accepted⟩
      | some error => exact ⟨_, .commitFailed begun ended sent.symm accepted⟩
  | error first =>
      rw [outcome_finish_error]
      cases accepted : later.nextError? with
      | none => exact ⟨_, .rolledBack begun ended sent.symm accepted⟩
      | some second => exact ⟨_, .rollbackFailed begun ended sent.symm accepted⟩

theorem exists_course {block : Execution α} (adds : Adds block) (session : Session) :
    ∃ trace, Course block session trace (outcome (transaction block) session) := by
  rw [outcome_transaction]
  cases begun : session.nextError? with
  | some error => exact ⟨_, .refused begun⟩
  | none => exact course_of_ended begun rfl (adds (session.afterStatement "BEGIN"))

/-- That a block only adds is no restriction on the blocks that queries are run in: any operations
in a row, whatever they are, take one of these courses. -/
theorem course_of_operations (steps : List (Plan × Operation)) (session : Session) :
    ∃ trace, Course (steps.forM fun step => step.1.carryOut step.2) session trace
      (outcome (transaction (steps.forM fun step => step.1.carryOut step.2)) session) :=
  exists_course (Adds.operations steps) session

/-- A transaction around a block that only adds to what was sent.  Whatever the connection replies,
the block is not run if BEGIN fails, and is followed by one COMMIT or one ROLLBACK otherwise.  A
value is only returned after an accepted COMMIT, and an error of the block is never lost. -/
theorem transaction_protocol {block : Execution α} (adds : Adds block) (session : Session) :
    ∃ trace result last, outcome (transaction block) session = (result, last) ∧
      last.sent = session.sent ++ trace ∧ Course block session trace (result, last) ∧
      (∀ value, result = .ok value →
        ∃ own later, outcome block (session.afterStatement "BEGIN") = (.ok value, later) ∧
          trace = [⟨"BEGIN", []⟩] ++ own ++ [⟨"COMMIT", []⟩] ∧ later.nextError? = none) ∧
      ∀ first later, session.nextError? = none →
        outcome block (session.afterStatement "BEGIN") = (.error first, later) →
        result = .error first ∨ ∃ second, result = .error (.rollback first second) := by
  obtain ⟨trace, course⟩ := exists_course adds session
  generalize outcome (transaction block) session = reached at course ⊢
  obtain ⟨result, last⟩ := reached
  refine ⟨trace, result, last, rfl, course.sent_eq, course, ?_, ?_⟩
  · rintro value rfl
    exact course.of_ok
  · intro first later begun ended
    exact course.of_error begun ended

/-- A connection that refuses the first statement of a block and is then lost. -/
def Sample.lostConnection : Session :=
  .start [.rows [], .failure (.other "refused"), .failure (.other "connection lost")] false

theorem transaction_protocol_of_lostConnection :
    Adds (perform "DELETE FROM account" []) ∧
      ∃ trace result last,
        outcome (transaction (perform "DELETE FROM account" [])) Sample.lostConnection =
          (result, last) ∧
        trace.map Request.sql = ["BEGIN", "DELETE FROM account", "ROLLBACK"] ∧
        Course (perform "DELETE FROM account" []) Sample.lostConnection trace (result, last) ∧
        result = .error (.rollback (.other "refused") (.other "connection lost")) := by
  have adds := Adds.perform "DELETE FROM account"
  obtain ⟨trace, result, last, reached, sent, course, -, -⟩ :=
    transaction_protocol adds Sample.lostConnection
  have ended : outcome (transaction (perform "DELETE FROM account" [])) Sample.lostConnection =
      (.error (.rollback _ _), _) := rfl
  obtain ⟨rfl, rfl⟩ := Prod.mk.inj (reached.symm.trans ended)
  have same : trace = [⟨"BEGIN", []⟩, ⟨"DELETE FROM account", []⟩, ⟨"ROLLBACK", []⟩] := sent.symm
  refine ⟨adds, trace, _, _, ended, ?_, course, rfl⟩
  rw [same]
  rfl

end Execution

end EntityQuery

import EntityQuery.Proofs.Execution.Operations
import EntityQuery.Proofs.Plan.Request

/-!
# Batches with an invalid statement

Each statement of a batch is validated on its own, just before it is sent.  So an invalid statement
keeps the batch from having an effect only where nothing is sent before it: the first statement is
refused before anything has happened, while an invalid statement further on is only met after the
first one has been sent.  That is the same however the batch is run.
-/

namespace EntityQuery

open Outcome

namespace Execution

variable {α β : Type} {refusal : Error → Error} {statement : Statement}

/-- The execution checks the statement before anything else.  It ends in the refusal of a statement
that is not valid, with nothing sent; a statement that is valid is the first thing that it sends. -/
structure Opens (refusal : Error → Error) (statement : Statement) (execution : Execution α) :
    Prop where
  refused {fault : Error} (session : Session) : statement.validate = .error fault →
    (outcome execution session).1 = .error (refusal fault) ∧
      (outcome execution session).2.sent = session.sent
  sent (session : Session) : statement.validate = .ok () → ∃ later : List Request,
    (outcome execution session).2.sent = session.sent ++ statement.toRequest :: later

namespace Opens

variable {execution : Execution α}

/-- Whatever comes after the check can only add to what has been sent. -/
theorem bind {next : α → Execution β} (opens : Opens refusal statement execution)
    {more : List Statement} (sends : ∀ value, Sends more (next value)) :
    Opens refusal statement (execution >>= next) where
  refused := by
    intro fault session invalid
    obtain ⟨ended, unsent⟩ := opens.refused session invalid
    rw [outcome_bind]
    generalize outcome execution session = reached at ended unsent
    obtain ⟨result, later⟩ := reached
    subst ended
    exact ⟨rfl, unsent⟩
  sent := by
    intro session valid
    obtain ⟨later, sent⟩ := opens.sent session valid
    rw [outcome_bind]
    generalize outcome execution session = reached at sent
    obtain ⟨result, after⟩ := reached
    cases result with
    | error error => exact ⟨later, sent⟩
    | ok value =>
        obtain ⟨handed, -, -, more⟩ := sends value after
        refine ⟨later ++ handed.map Statement.toRequest, ?_⟩
        dsimp only at sent more ⊢
        rw [more, sent, List.append_assoc, List.cons_append]

/-- What is only logged, or read from the session, may come before. -/
theorem after {before : Execution β} {next : β → Execution α}
    (silent : ∀ session, ∃ value later, outcome before session = (.ok value, later) ∧
      later.sent = session.sent)
    (opens : ∀ value, Opens refusal statement (next value)) :
    Opens refusal statement (before >>= next) where
  refused := by
    intro fault session invalid
    obtain ⟨value, later, reached, unsent⟩ := silent session
    rw [outcome_bind, reached, ← unsent]
    exact (opens value).refused later invalid
  sent := by
    intro session valid
    obtain ⟨value, later, reached, unsent⟩ := silent session
    rw [outcome_bind, reached, ← unsent]
    exact (opens value).sent later valid

end Opens

end Execution

namespace Plan

open Execution

variable (plan : Plan) (verb : Verb)

theorem opens_announce (statement : Statement) :
    Opens (plan.refusal verb statement) statement (plan.announce verb statement) where
  refused := by
    intro fault session invalid
    unfold announce
    rw [invalid]
    exact ⟨rfl, rfl⟩
  sent := by
    intro session valid
    unfold announce
    rw [valid]
    exact ⟨[], rfl⟩

theorem opens_runInTurn (first : Statement) (rest : List Statement) :
    Opens (plan.refusal verb first) first (plan.runInTurn verb (first :: rest)) := by
  have opened : Opens (plan.refusal verb first) first (plan.run verb first) :=
    (plan.opens_announce verb first).bind fun _ => plan.sends_collect verb first
  have others := plan.sends_runInTurn verb rest
  unfold runInTurn at others ⊢
  rw [List.mapM_cons]
  exact opened.bind fun _ => others.andThen fun _ => Sends.pure _

theorem opens_runTogether (first : Statement) (rest : List Statement) :
    Opens (plan.refusal verb first) first (plan.runTogether verb (first :: rest)) := by
  have others := Sends.forM (plan.sends_announce verb) rest
  have announced := (plan.opens_announce verb first).bind fun _ => others
  exact announced.bind fun _ => Sends.mapM (plan.sends_collect verb) (first :: rest)

theorem opens_runQueued (first : Statement) (rest : List Statement) :
    Opens (plan.refusal verb first) first (plan.runQueued verb (first :: rest)) := by
  have others := Sends.mapM (fun statement => (plan.sends_announce verb statement).attempt) rest
  exact (plan.opens_announce verb first).bind fun _ => others.andThen fun _ =>
    plan.sends_collectQueued verb _

theorem opens_runBatches (first : Statement) (rest : List Statement) :
    Opens (plan.refusal verb first) first (plan.runBatches verb (first :: rest)) := by
  have gathered (session : Session) : Opens (plan.refusal verb first) first (do
      if !session.overlapping then return (← plan.runInTurn verb (first :: rest)).flatten
      else if (first :: rest).length ≤ watchedTogether then
        return (← plan.runTogether verb (first :: rest)).flatten
      else return (← plan.runQueued verb (first :: rest)).flatten) := by
    split
    · exact (plan.opens_runInTurn verb first rest).bind fun _ => Sends.pure _
    · split
      · exact (plan.opens_runTogether verb first rest).bind fun _ => Sends.pure _
      · exact (plan.opens_runQueued verb first rest).bind fun _ => Sends.pure _
  have chosen := Opens.after (fun session => ⟨session, session, rfl, rfl⟩) gathered
  unfold runBatches
  dsimp only
  split
  · exact Opens.after (fun session => ⟨(), _, rfl, rfl⟩) fun _ => chosen
  · exact chosen

/-- Write rows in batches. -/
def write : BatchRequest → Execution (List Record)
  | .inserts rows => plan.insertRows rows
  | .updateMany records => plan.updateAll records

end Plan

/-- What the statements of the request do with rows. -/
def BatchRequest.verb : BatchRequest → Verb
  | .inserts _ => .insert
  | .updateMany _ => .update

namespace Plan

open Execution

theorem write_eq (plan : Plan) (request : BatchRequest) :
    plan.write request = plan.performBatches request.verb (plan.statements request) := by
  cases request <;> rfl

theorem opens_write {plan : Plan} {request : BatchRequest} {first : Statement}
    {rest : List Statement} (formatted : plan.statements request = .ok (first :: rest)) :
    Opens (plan.refusal request.verb first) first (plan.write request) := by
  have given : Execution.ofExcept (.ok (first :: rest)) = pure (first :: rest) := rfl
  rw [write_eq, formatted, performBatches, given, pure_bind]
  exact (plan.opens_runBatches request.verb first rest).bind fun rows =>
    Sends.ofExcept (plan.checkRequired request.verb rows)

end Plan

namespace Sample

/-- The accounts, written two at a time. -/
def accountsInPairs : Plan :=
  { notesWhere [] with settings := { (notesWhere []).settings with batchSize := some 2 } }

def noteRow (id : Int) (note : String) : Record :=
  [("id", .integer id), ("note", .string note)]

/-- Two pairs of rows, the second of which lacks a note. -/
def unevenPairs : BatchRequest :=
  .inserts [noteRow 1 "x", noteRow 2 "y", noteRow 3 "z", [("id", .integer 4)]]

/-- The statement that inserts two accounts with these values. -/
def pairStatement (values : List Json) : Statement :=
  ⟨"INSERT INTO account AS \"a?\" (id, \"note?\") VALUES (?, ?), (?, ?) " ++
    "RETURNING \"a?\".\"note?\"", values, ["note"]⟩

theorem statements_unevenPairs :
    accountsInPairs.statements unevenPairs =
      .ok [pairStatement [.integer 1, .string "x", .integer 2, .string "y"],
        pairStatement [.integer 3, .string "z", .integer 4]] := by
  have pairs : Plan.chunks 1 [noteRow 1 "x", noteRow 2 "y", noteRow 3 "z", [("id", .integer 4)]] =
      [[noteRow 1 "x", noteRow 2 "y"], [noteRow 3 "z", [("id", .integer 4)]]] := by
    simp [Plan.chunks]
  have batched : accountsInPairs.batches
      [noteRow 1 "x", noteRow 2 "y", noteRow 3 "z", [("id", .integer 4)]] =
        .ok [[noteRow 1 "x", noteRow 2 "y"], [noteRow 3 "z", [("id", .integer 4)]]] :=
    congrArg Except.ok pairs
  simp only [Plan.statements, unevenPairs, Plan.inserts, batched]
  rfl

/-- Two rows, the second of which lacks a note. -/
def unevenPair : BatchRequest :=
  .inserts [noteRow 1 "x", [("id", .integer 2)]]

theorem statements_unevenPair :
    accountsInPairs.statements unevenPair =
      .ok [pairStatement [.integer 1, .string "x", .integer 2]] := by
  have batched : accountsInPairs.batches [noteRow 1 "x", [("id", .integer 2)]] =
      .ok [[noteRow 1 "x", [("id", .integer 2)]]] := by
    have pairs : Plan.chunks 1 [noteRow 1 "x", [("id", .integer 2)]] =
        [[noteRow 1 "x", [("id", .integer 2)]]] := by
      simp [Plan.chunks]
    exact congrArg Except.ok pairs
  simp only [Plan.statements, unevenPair, Plan.inserts, batched]
  rfl

end Sample

namespace Plan

open Execution

/-- A batched write has no effect exactly when its first statement is invalid, and then it ends in
the refusal of that statement.  An invalid statement further on does not keep the first one back. -/
theorem sent_eq_iff_first_invalid (plan : Plan) {request : BatchRequest} {first : Statement}
    {rest : List Statement} (session : Session)
    (formatted : plan.statements request = .ok (first :: rest)) :
    ((outcome (plan.write request) session).2.sent = session.sent ↔
        first.placeholderCount ≠ first.values.length) ∧
      ∀ fault, first.validate = .error fault →
        (outcome (plan.write request) session).1 =
          .error (plan.refusal request.verb first fault) := by
  have opened := opens_write formatted
  refine ⟨⟨fun unsent aligned => ?_, fun uneven => ?_⟩, fun fault checked => ?_⟩
  · obtain ⟨later, sent⟩ := opened.sent session (Statement.validate_eq_ok.2 aligned)
    rw [sent] at unsent
    simp at unsent
  · cases checked : first.validate with
    | ok _ => exact absurd (Statement.validate_eq_ok.1 checked) uneven
    | error fault => exact (opened.refused session checked).2
  · exact (opened.refused session checked).1

/-- The only pair is refused for its missing value, and nothing is sent. -/
theorem sent_of_unevenPair :
    (outcome (Sample.accountsInPairs.write Sample.unevenPair) (.start [] false)).2.sent = [] := by
  have decided := sent_eq_iff_first_invalid Sample.accountsInPairs (.start [] false)
    Sample.statements_unevenPair
  exact decided.1.2 (by decide)

end Plan

/-- The second pair is refused for its missing value after the first pair has been sent. -/
theorem Plan.sent_of_unevenPairs :
    ∃ first second fault,
      Sample.accountsInPairs.statements Sample.unevenPairs = .ok [first, second] ∧
      second.validate = .error fault ∧
      (Execution.outcome (Sample.accountsInPairs.write Sample.unevenPairs)
        (.start [] false)).1 = .error (Sample.accountsInPairs.refusal .insert second fault) ∧
      (Execution.outcome (Sample.accountsInPairs.write Sample.unevenPairs)
        (.start [] false)).2.sent = [first.toRequest] := by
  refine ⟨_, _, .validation (.misaligned 4 3), Sample.statements_unevenPairs, ?_, ?_, ?_⟩
  · rfl
  · rw [Plan.write_eq, Sample.statements_unevenPairs]
    rfl
  · rw [Plan.write_eq, Sample.statements_unevenPairs]
    rfl

end EntityQuery

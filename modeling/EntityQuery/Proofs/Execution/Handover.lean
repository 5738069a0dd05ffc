import EntityQuery.Proofs.Execution.Sending

/-!
# What the operations of a plan send

A statement is checked just before it is sent.  However batches are run, they are sent in their
order and none of them twice.
-/

namespace EntityQuery.Plan

open Execution

variable (plan : Plan) (verb : Verb)

/-- A statement that is not aligned is not sent. -/
theorem sends_announce (statement : Statement) :
    Sends [statement] (plan.announce verb statement) := by
  intro session
  cases valid : statement.validate with
  | ok _ =>
      refine ⟨[statement], List.Sublist.refl _, ?_, ?_⟩
      · simpa using Statement.validate_eq_ok.1 valid
      · unfold announce
        rw [valid]
        rfl
  | error error =>
      refine ⟨[], List.nil_sublist _, by simp, ?_⟩
      unfold announce
      rw [valid]
      exact (List.append_nil _).symm

theorem sends_collect (statement : Statement) : Sends [] (plan.collect verb statement) :=
  (Sends.receive.mapError _).bind fun _ => Sends.ofExcept _

theorem sends_run (statement : Statement) : Sends [statement] (plan.run verb statement) :=
  (plan.sends_announce verb statement).andThen fun _ => plan.sends_collect verb statement

theorem sends_runInTurn (statements : List Statement) :
    Sends statements (plan.runInTurn verb statements) := by
  have sends := Sends.mapM (plan.sends_run verb) statements
  rwa [List.flatMap_singleton'] at sends

theorem sends_runTogether (statements : List Statement) :
    Sends statements (plan.runTogether verb statements) := by
  have announced := Sends.forM (plan.sends_announce verb) statements
  rw [List.flatMap_singleton'] at announced
  refine announced.andThen fun _ => ?_
  have silent : (statements.flatMap fun _ => []) = ([] : List Statement) := by simp
  rw [← silent]
  exact Sends.mapM (plan.sends_collect verb) statements

/-- Taking the replies of statements sends nothing more. -/
theorem sends_collectQueued (announced : List (Statement × Except Error Unit)) :
    Sends [] (plan.collectQueued verb announced) := by
  induction announced with
  | nil => exact Sends.pure _
  | cons entry rest ih =>
      obtain ⟨statement, result⟩ := entry
      exact (Sends.ofExcept result).bind fun _ => (plan.sends_collect verb statement).bind fun _ =>
        ih.bind fun _ => Sends.pure _

theorem sends_runQueued (statements : List Statement) :
    Sends statements (plan.runQueued verb statements) := by
  cases statements with
  | nil => exact Sends.pure _
  | cons first rest =>
      -- Unlike the others, an invalid first statement ends the batch before anything is sent.
      have announced :=
        Sends.mapM (fun statement => (plan.sends_announce verb statement).attempt) rest
      rw [List.flatMap_singleton'] at announced
      exact (plan.sends_announce verb first).bind fun _ => announced.andThen fun _ =>
        plan.sends_collectQueued verb _

theorem sends_runBatches (statements : List Statement) :
    Sends statements (plan.runBatches verb statements) := by
  have gathered (session : Session) : Sends statements (do
      if !session.overlapping then return (← plan.runInTurn verb statements).flatten
      else if statements.length ≤ watchedTogether then
        return (← plan.runTogether verb statements).flatten
      else return (← plan.runQueued verb statements).flatten) := by
    split
    · exact (plan.sends_runInTurn verb statements).andThen fun _ => Sends.pure _
    · split
      · exact (plan.sends_runTogether verb statements).andThen fun _ => Sends.pure _
      · exact (plan.sends_runQueued verb statements).andThen fun _ => Sends.pure _
  unfold runBatches
  dsimp only
  split
  · exact (Sends.log _).bind fun _ => Sends.get.bind gathered
  · exact Sends.get.bind gathered

end EntityQuery.Plan

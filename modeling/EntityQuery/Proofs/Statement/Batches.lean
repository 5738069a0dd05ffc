import EntityQuery.Proofs.Outcome
import EntityQuery.Statement.Clauses
import Mathlib.Tactic.SplitIfs

/-!
# Batches of rows

Rows are cut into batches without changing their order: each batch but the last is full, and none is
empty.  Without a size there is at most one batch.
-/

namespace EntityQuery.Plan

open Outcome

variable {Row : Type} {plan : Plan} {rows : List Row}

/-- Counts of rows that fill batches of a size one after the other. -/
structure Fills (size : Option Nat) (counts : List Nat) : Prop where
  positive : ∀ count ∈ counts, 1 ≤ count
  bounded : ∀ limit ∈ size, ∀ count ∈ counts, count ≤ limit
  full : ∀ limit ∈ size, ∀ count ∈ counts.dropLast, count = limit
  single : size = none → counts.length ≤ 1

theorem flatten_chunks (size : Nat) (rows : List Row) : (chunks size rows).flatten = rows := by
  fun_induction chunks size rows with
  | case1 => rfl
  | case2 first rest ih =>
      rw [List.flatten_cons, ih, List.cons_append, List.take_append_drop]

theorem chunks_eq_nil {size : Nat} : chunks size rows = [] ↔ rows = [] := by
  cases rows <;> simp [chunks]

theorem length_of_mem_chunks {size : Nat} {batch : List Row} (member : batch ∈ chunks size rows) :
    1 ≤ batch.length ∧ batch.length ≤ size + 1 := by
  fun_induction chunks size rows with
  | case1 => exact nomatch member
  | case2 first rest ih =>
      rcases List.mem_cons.1 member with rfl | later
      · simp only [List.length_cons, List.length_take]
        omega
      · exact ih later

theorem length_of_mem_dropLast_chunks {size : Nat} {batch : List Row}
    (member : batch ∈ (chunks size rows).dropLast) : batch.length = size + 1 := by
  fun_induction chunks size rows with
  | case1 => exact nomatch member
  | case2 first rest ih =>
      by_cases last : chunks size (rest.drop size) = []
      · rw [last] at member
        exact nomatch member
      · rw [List.dropLast_cons_of_ne_nil last] at member
        rcases List.mem_cons.1 member with rfl | later
        · -- There are rows left over, so the batch is full.
          have left : rest.drop size ≠ [] := fun none => last (chunks_eq_nil.2 none)
          rw [ne_eq, List.drop_eq_nil_iff] at left
          simp only [List.length_cons, List.length_take]
          omega
        · exact ih later

theorem fills_chunks (size : Nat) (rows : List Row) :
    Fills (some (size + 1)) ((chunks size rows).map List.length) where
  positive := List.forall_mem_map.2 fun _ member => (length_of_mem_chunks member).1
  bounded := by
    rintro _ ⟨⟩
    exact List.forall_mem_map.2 fun _ member => (length_of_mem_chunks member).2
  full := by
    rintro _ ⟨⟩
    rw [← List.map_dropLast]
    exact List.forall_mem_map.2 fun _ member => length_of_mem_dropLast_chunks member
  single := nofun

theorem batchSize_eq_ok {size : Option Nat} :
    plan.batchSize = .ok size ↔
      plan.settings.batchSize ≠ some 0 ∧ size = plan.settings.batchSize := by
  unfold batchSize
  split
  case h_1 none => simp [none]
  case h_2 positive =>
      constructor
      · intro held
        exact ⟨positive, (Except.ok.inj held).symm⟩
      · rintro ⟨-, rfl⟩
        rfl

/-- No row is lost or moved, and the batches are full. -/
theorem batches_of_ok {batched : List (List Row)} (given : plan.batches rows = .ok batched) :
    batched.flatten = rows ∧ Fills plan.settings.batchSize (batched.map List.length) := by
  unfold batches at given
  split_ifs at given with none
  · obtain rfl := Except.ok.inj given
    exact ⟨(List.isEmpty_iff.1 none).symm, by constructor <;> simp⟩
  · obtain ⟨size, sized, cut⟩ := bind_eq_ok.1 given
    obtain ⟨positive, rfl⟩ := batchSize_eq_ok.1 sized
    cases held : plan.settings.batchSize with
    | none =>
        rw [held] at cut
        obtain rfl := Except.ok.inj cut
        have shown : 1 ≤ rows.length :=
          List.length_pos_iff.2 fun nothing => none (List.isEmpty_iff.2 nothing)
        exact ⟨by simp, by constructor <;> simp [shown]⟩
    | some size =>
        rw [held] at cut positive
        obtain rfl := Except.ok.inj cut
        obtain ⟨less, rfl⟩ :=
          Nat.exists_eq_add_one_of_ne_zero fun zero => positive (congrArg some zero)
        exact ⟨flatten_chunks less rows, fills_chunks less rows⟩

theorem exists_batches (positive : plan.settings.batchSize ≠ some 0) (rows : List Row) :
    ∃ batched, plan.batches rows = .ok batched := by
  have sized := batchSize_eq_ok.2 ⟨positive, rfl⟩
  unfold batches
  split_ifs
  · exact ⟨[], rfl⟩
  · rw [sized]
    cases plan.settings.batchSize with
    | none => exact ⟨_, rfl⟩
    | some size => exact ⟨_, rfl⟩

end EntityQuery.Plan

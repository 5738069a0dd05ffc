import Mathlib.Data.List.Forall2

/-!
# Steps that can fail

A sequence of steps succeeds exactly when each step does.  Two such sequences match when both fail
with the same fault, or both succeed with related results; matching goes through every step.
-/

namespace EntityQuery.Outcome

variable {Fault α β γ δ : Type}

theorem bind_eq_ok {first : Except Fault α} {next : α → Except Fault β} {result : β} :
    (first >>= next) = .ok result ↔ ∃ value, first = .ok value ∧ next value = .ok result := by
  cases first <;> simp [bind, Except.bind]

theorem pure_eq_ok {value result : α} :
    (pure value : Except Fault α) = .ok result ↔ value = result := by
  simp [pure, Except.pure]

theorem mapError_eq_ok {Failure : Type} {first : Except Fault α} {change : Fault → Failure}
    {result : α} : first.mapError change = .ok result ↔ first = .ok result := by
  cases first <;> simp [Except.mapError]

@[simp]
theorem ok_bind (value : α) (next : α → Except Fault β) : (.ok value >>= next) = next value := rfl

theorem bind_congr_ok {first : Except Fault α} {next other : α → Except Fault β}
    (same : ∀ value, first = .ok value → next value = other value) :
    (first >>= next) = first >>= other := by
  cases first with
  | error fault => rfl
  | ok value => exact same value rfl

/-- A list of steps succeeds exactly when each of them does, with the list of their results. -/
theorem mapM_eq_ok {step : α → Except Fault β} {items : List α} {results : List β} :
    items.mapM step = .ok results ↔
      List.Forall₂ (fun item result => step item = .ok result) items results := by
  induction items generalizing results with
  | nil =>
      rw [List.mapM_nil, pure_eq_ok, List.forall₂_nil_left_iff]
      exact eq_comm
  | cons item rest ih =>
      rw [List.mapM_cons, bind_eq_ok, List.forall₂_cons_left_iff]
      constructor
      · rintro ⟨result, stepped, more⟩
        obtain ⟨others, othersStepped, whole⟩ := bind_eq_ok.1 more
        exact ⟨result, others, stepped, ih.1 othersStepped, (pure_eq_ok.1 whole).symm⟩
      · rintro ⟨result, others, stepped, othersStepped, rfl⟩
        exact ⟨result, stepped, bind_eq_ok.2 ⟨others, ih.2 othersStepped, rfl⟩⟩

/-- If each step succeeds with a result that is related to its item, so do all of them. -/
theorem exists_mapM_forall₂ {step : α → Except Fault β} {related : α → β → Prop} {items : List α}
    (each : ∀ item ∈ items, ∃ result, step item = .ok result ∧ related item result) :
    ∃ results, items.mapM step = .ok results ∧ List.Forall₂ related items results := by
  induction items with
  | nil => exact ⟨[], rfl, .nil⟩
  | cons item rest ih =>
      obtain ⟨⟨result, stepped, holds⟩, others⟩ := List.forall_mem_cons.1 each
      obtain ⟨results, othersStepped, held⟩ := ih others
      exact ⟨result :: results, mapM_eq_ok.2 (.cons stepped (mapM_eq_ok.1 othersStepped)),
        .cons holds held⟩

theorem exists_mapM {step : α → Except Fault β} {items : List α}
    (each : ∀ item ∈ items, ∃ result, step item = .ok result) :
    ∃ results, items.mapM step = .ok results := by
  have unrelated : ∀ item ∈ items, ∃ result, step item = .ok result ∧ True := by simpa using each
  obtain ⟨results, stepped, -⟩ := exists_mapM_forall₂ unrelated
  exact ⟨results, stepped⟩

/-- If the computation succeeds, this holds of its result. -/
def Yields (holds : α → Prop) (computed : Except Fault α) : Prop :=
  ∀ result, computed = .ok result → holds result

namespace Yields

variable {computed : Except Fault α} {holds : α → Prop} {after : β → Prop}

theorem ok {result : α} (held : holds result) : Yields holds (.ok result : Except Fault α) :=
  fun _ same => Except.ok.inj same ▸ held

theorem bind {next : α → Except Fault β} (yields : Yields holds computed)
    (step : ∀ result, holds result → Yields after (next result)) :
    Yields after (computed >>= next) := by
  intro result succeeded
  obtain ⟨value, first, second⟩ := bind_eq_ok.1 succeeded
  exact step value (yields value first) result second

/-- Nothing is said of the first result. -/
theorem anyway {next : α → Except Fault β} (step : ∀ result, Yields after (next result)) :
    Yields after (computed >>= next) := by
  intro result succeeded
  obtain ⟨value, -, second⟩ := bind_eq_ok.1 succeeded
  exact step value result second

theorem mapM {step : α → Except Fault β} {items : List α}
    (each : ∀ item ∈ items, Yields after (step item)) :
    Yields (fun results => ∀ result ∈ results, after result) (items.mapM step) := by
  induction items with
  | nil => exact ok (by simp)
  | cons item rest ih =>
      rw [List.mapM_cons]
      refine (each item List.mem_cons_self).bind fun first held => ?_
      refine (ih fun other member => each other (List.mem_cons_of_mem _ member)).bind ?_
      intro others othersHeld
      refine ok fun result member => ?_
      rcases List.mem_cons.1 member with rfl | later
      · exact held
      · exact othersHeld result later

end Yields

/-- Both fail with the same fault, or both succeed with related results. -/
inductive Matches (related : α → β → Prop) : Except Fault α → Except Fault β → Prop
  | ok {first : α} {second : β} : related first second → Matches related (.ok first) (.ok second)
  | error (fault : Fault) : Matches related (.error fault) (.error fault)

namespace Matches

variable {related : α → β → Prop} {first : Except Fault α} {second : Except Fault β}

theorem bind {after : γ → δ → Prop} {next : α → Except Fault γ} {other : β → Except Fault δ}
    (matched : Matches related first second)
    (step : ∀ one two, related one two → Matches after (next one) (other two)) :
    Matches after (first >>= next) (second >>= other) := by
  cases matched with
  | ok results => exact step _ _ results
  | error fault => exact .error fault

/-- A computation matches itself if what it can give is related to itself. -/
theorem same {related : α → α → Prop} {computed : Except Fault α}
    (reflexive : ∀ result, computed = .ok result → related result result) :
    Matches related computed computed := by
  cases computed with
  | ok result => exact .ok (reflexive result rfl)
  | error fault => exact .error fault

theorem refl (computed : Except Fault α) : Matches Eq computed computed := same fun _ _ => rfl

theorem imp {weaker : α → β → Prop} (matched : Matches related first second)
    (implied : ∀ one two, related one two → weaker one two) : Matches weaker first second := by
  cases matched with
  | ok results => exact .ok (implied _ _ results)
  | error fault => exact .error fault

theorem exists_of_ok {result : α} (matched : Matches related first second)
    (succeeded : first = .ok result) : ∃ other, second = .ok other ∧ related result other := by
  cases matched with
  | ok results =>
      obtain rfl := Except.ok.inj succeeded
      exact ⟨_, rfl, results⟩
  | error => contradiction

/-- Lists of matching steps match, item by item. -/
theorem mapM {source : γ → δ → Prop} {step : γ → Except Fault α} {other : δ → Except Fault β}
    {items : List γ} {others : List δ} (paired : List.Forall₂ source items others)
    (matched : ∀ one two, source one two → Matches related (step one) (other two)) :
    Matches (List.Forall₂ related) (items.mapM step) (others.mapM other) := by
  induction paired with
  | nil => exact .ok .nil
  | cons pair _ ih =>
      rw [List.mapM_cons, List.mapM_cons]
      exact (matched _ _ pair).bind fun _ _ head => ih.bind fun _ _ tail => .ok (.cons head tail)

end Matches

end EntityQuery.Outcome

import EntityQuery.Proofs.Options.Setting

/-!
# Counts are the numbers that were given

A limit, an offset or a batch size is given as a JSON number or as text.  The option then holds that
number without its fraction, and a number that is no count is refused.  The exception are floating
numbers from 2 ^ 64 on: they are not refused but lowered to the greatest count.
-/

namespace EntityQuery

namespace Options

variable {options : Options} {spelling : String} {option : CountOption} {value : Json}

/-- The option takes the number that it is given, or refuses it. -/
structure KeepsNumber (options : Options) (spelling : String) (option : CountOption)
    (value : Json) : Prop where
  /-- After a success the option holds the number without its fraction. -/
  kept : ∀ changed, options.set spelling (some value) = (changed, .ok ()) →
    ∃ number count, value.number? = some number ∧ changed.count? option = some count ∧
      truncated number = (count : ℕ)
  /-- A number that is no count is an invalid value, and nothing is changed. -/
  refused : ∀ number, value.number? = some number →
    truncated number < 0 ∨ 2 ^ 64 ≤ truncated number →
    ∃ fault, options.set spelling (some value) =
      (options, .error (.invalidOption (OptionName.count option).text fault))

theorem set_count_eq_ok {changed : Options} (found : named spelling = .ok (.count option))
    (given : value ≠ .null) :
    options.set spelling (some value) = (changed, .ok ()) ↔
      ∃ count, CountOption.count? value = some count ∧ (option = .batchSize → count ≠ 0) ∧
        changed = options.put (.count option) count := by
  rw [set_eq_ok found given]
  refine exists_congr fun count => ?_
  rw [← and_assoc, ← CountOption.read_eq_ok]
  rfl

theorem count?_put (options : Options) (option : CountOption) (count : ℕ) :
    (options.put (.count option) count).count? option = some count :=
  held?_update_same options (.count option) (some count)

/-- A value that is not accepted is invalid for the option, and nothing is changed. -/
theorem set_eq_invalidOption {name : OptionName} (found : named spelling = .ok name)
    (refused : ∀ changed, options.set spelling (some value) ≠ (changed, .ok ())) :
    ∃ fault, options.set spelling (some value) =
      (options, .error (.invalidOption name.text fault)) := by
  have setting := options.setting_set spelling (some value)
  generalize options.set spelling (some value) = result at setting refused
  cases setting with
  | unknown missing => exact nomatch missing.symm.trans found
  | unread same => exact ⟨_, by rw [Except.ok.inj (same.symm.trans found)]⟩
  | taken => exact absurd rfl (refused _)

theorem keepsNumber_of_not_exceedsCounts (found : named spelling = .ok (.count option))
    (given : value ≠ .null) (within : ¬value.ExceedsCounts) :
    options.KeepsNumber spelling option value := by
  constructor
  case kept =>
      intro changed set
      obtain ⟨count, counted, -, rfl⟩ := (set_count_eq_ok found given).1 set
      obtain ⟨number, stands, whole, -⟩ := CountOption.truncated_of_count? within counted
      exact ⟨number, count, stands, count?_put options option count, whole⟩
  case refused =>
      intro number stands outside
      refine set_eq_invalidOption found fun changed set => ?_
      obtain ⟨count, counted, -, -⟩ := (set_count_eq_ok found given).1 set
      obtain ⟨same, stands', whole, bounded⟩ := CountOption.truncated_of_count? within counted
      obtain rfl := Option.some.inj (stands.symm.trans stands')
      rw [whole] at outside
      have beyond : 2 ^ 64 ≤ count := by omega
      exact absurd (CountOption.greatest_lt_iff.2 beyond) (Nat.not_lt.2 bounded)

theorem accepted_iff (found : named spelling = .ok (.count option)) (isNumber : value.IsNumber)
    {number : ℚ} (stands : value.number? = some number) (within : number < 2 ^ 64) :
    (∃ changed, options.set spelling (some value) = (changed, .ok ())) ↔
      0 ≤ number ∧ (option = .batchSize → 1 ≤ number) := by
  have given : value ≠ .null := by
    rintro rfl
    contradiction
  have below : ¬value.ExceedsCounts := by
    rintro ⟨real, rfl, exceeds⟩
    obtain rfl := Option.some.inj stands
    exact absurd within (not_lt.2 exceeds)
  -- A count that was read is positive exactly if the number is at least one.
  have positive {count : ℕ} (counted : CountOption.count? value = some count) :
      count ≠ 0 ↔ 1 ≤ number := by
    have nonneg := (CountOption.count?_of_isNumber isNumber stands within).1
      (Option.isSome_of_eq_some counted)
    obtain ⟨same, stands', whole, -⟩ := CountOption.truncated_of_count? below counted
    obtain rfl := Option.some.inj (stands.symm.trans stands')
    rw [truncated_of_nonneg nonneg] at whole
    rw [← Nat.one_le_iff_ne_zero, ← Int.ofNat_le, ← whole, Int.le_floor]
    norm_num
  constructor
  · rintro ⟨changed, set⟩
    obtain ⟨count, counted, batch, -⟩ := (set_count_eq_ok found given).1 set
    exact ⟨(CountOption.count?_of_isNumber isNumber stands within).1
      (Option.isSome_of_eq_some counted), fun size => (positive counted).1 (batch size)⟩
  · rintro ⟨nonneg, batch⟩
    obtain ⟨count, counted⟩ := Option.isSome_iff_exists.1
      ((CountOption.count?_of_isNumber isNumber stands within).2 nonneg)
    exact ⟨_, (set_count_eq_ok found given).2
      ⟨count, counted, fun size => (positive counted).2 (batch size), rfl⟩⟩

theorem set_of_exceedsCounts (found : named spelling = .ok (.count option))
    (exceeds : value.ExceedsCounts) : options.set spelling (some value) =
      (options.put (.count option) CountOption.greatest, .ok ()) := by
  have given : value ≠ .null := by
    rintro rfl
    obtain ⟨_, same, _⟩ := exceeds
    contradiction
  have positive : CountOption.greatest ≠ 0 := by decide
  exact (set_count_eq_ok found given).2
    ⟨CountOption.greatest, CountOption.count?_of_exceeding exceeds, fun _ => positive, rfl⟩

theorem not_keepsNumber_of_exceedsCounts (found : named spelling = .ok (.count option))
    (exceeds : value.ExceedsCounts) : ¬options.KeepsNumber spelling option value := by
  intro keeps
  have lowered : options.set spelling (some value) = _ := set_of_exceedsCounts found exceeds
  obtain ⟨real, rfl, beyond⟩ := exceeds
  have nonneg : 0 ≤ real.value := le_trans (by positivity) beyond
  have above := CountOption.greatest_lt_iff.1
    ((CountOption.greatest_lt_wholePart_iff nonneg).2 beyond)
  have outside : 2 ^ 64 ≤ truncated real.value := by
    rw [Binary64.truncated_value nonneg]
    exact_mod_cast above
  obtain ⟨fault, refused⟩ := keeps.refused real.value rfl (.inr outside)
  rw [lowered] at refused
  exact nomatch congrArg Prod.snd refused

/-- An option that takes a count keeps the number that it is given, or refuses it, exactly if this
is no floating number from 2 ^ 64 on; such a one is lowered to the greatest count.  Of the other
JSON numbers those are accepted that are not negative and, for the size of batches, not below
one. -/
theorem keepsNumber_iff (found : named spelling = .ok (.count option)) (given : value ≠ .null) :
    (options.KeepsNumber spelling option value ↔ ¬value.ExceedsCounts) ∧
      (value.ExceedsCounts → options.set spelling (some value) =
        (options.put (.count option) CountOption.greatest, .ok ())) ∧
      (value.IsNumber → ∀ number, value.number? = some number → number < 2 ^ 64 →
        ((∃ changed, options.set spelling (some value) = (changed, .ok ())) ↔
          0 ≤ number ∧ (option = .batchSize → 1 ≤ number))) := by
  refine ⟨⟨fun keeps exceeds => ?_, keepsNumber_of_not_exceedsCounts found given⟩,
    set_of_exceedsCounts found, fun isNumber _ => accepted_iff found isNumber⟩
  exact not_keepsNumber_of_exceedsCounts found exceeds keeps

end Options

/-- Two and a half, as a floating number. -/
def Sample.twoAndAHalf : Binary64 := ⟨false, 0x4004000000000000, by decide⟩

theorem Sample.value_twoAndAHalf : twoAndAHalf.value = 5 / 2 := by
  have significand : BinaryFormat.binary64.significand twoAndAHalf.magnitude = 5 * 2 ^ 50 := rfl
  have exponent : BinaryFormat.binary64.exponent twoAndAHalf.magnitude = -51 := rfl
  rw [Binary64.value, if_neg (by decide), BinaryFormat.value, significand, exponent]
  norm_num

/-- Batches of two and a half rows have two rows. -/
theorem Options.keepsNumber_of_twoAndAHalf :
    named "batch_size" = .ok (.count .batchSize) ∧
      ∃ changed, unset.set "batch_size" (some (.real Sample.twoAndAHalf)) = (changed, .ok ()) ∧
        changed.count? .batchSize = some 2 := by
  have found : named "batch_size" = .ok (.count .batchSize) := rfl
  have within : ¬(Json.real Sample.twoAndAHalf).ExceedsCounts := by
    rintro ⟨number, same, exceeds⟩
    obtain rfl := Json.real.inj same
    rw [Sample.value_twoAndAHalf] at exceeds
    norm_num at exceeds
  have given : Json.real Sample.twoAndAHalf ≠ .null := nofun
  obtain ⟨keeps, -, accepted⟩ := @keepsNumber_iff unset _ _ _ found given
  obtain ⟨changed, set⟩ := (accepted trivial _ rfl (by norm_num [Sample.value_twoAndAHalf])).2
    (by norm_num [Sample.value_twoAndAHalf])
  obtain ⟨number, count, stands, held, whole⟩ := (keeps.2 within).kept changed set
  obtain rfl := Option.some.inj stands
  have two : truncated Sample.twoAndAHalf.value = 2 := by
    rw [Sample.value_twoAndAHalf]
    norm_num [truncated]
  obtain rfl : count = 2 := by exact_mod_cast whole.symm.trans two
  exact ⟨found, changed, set, held⟩

/-- The floating number 2 ^ 64. -/
def Sample.beyondCounts : Binary64 := ⟨false, 0x43F0000000000000, by decide⟩

theorem Sample.value_beyondCounts : beyondCounts.value = 2 ^ 64 := by
  have significand : BinaryFormat.binary64.significand beyondCounts.magnitude = 2 ^ 52 := rfl
  have exponent : BinaryFormat.binary64.exponent beyondCounts.magnitude = 12 := rfl
  rw [Binary64.value, if_neg (by decide), BinaryFormat.value, significand, exponent]
  norm_num

/-- A limit of 2 ^ 64 rows is accepted, and becomes a limit of one row less. -/
theorem Options.limit_of_beyondCounts :
    Sample.beyondCounts.value = 2 ^ 64 ∧
      unset.set "limit" (some (.real Sample.beyondCounts)) =
        (unset.put (.count .limit) (2 ^ 64 - 1), .ok ()) ∧
      ¬unset.KeepsNumber "limit" .limit (.real Sample.beyondCounts) := by
  have found : named "limit" = .ok (.count .limit) := rfl
  have exceeds : (Json.real Sample.beyondCounts).ExceedsCounts :=
    ⟨_, rfl, Sample.value_beyondCounts.ge⟩
  exact ⟨Sample.value_beyondCounts, set_of_exceedsCounts found exceeds,
    not_keepsNumber_of_exceedsCounts found exceeds⟩

end EntityQuery

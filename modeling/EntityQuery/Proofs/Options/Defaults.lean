import EntityQuery.Proofs.Options.Setting

/-!
# Defaults of options

With defaults, options that are set keep what they hold, and the others are taken from the defaults.
Setting an option makes it one of the former, unless it is a filter, a condition on groups or an
ordering that gets a value without items: such a value adds nothing, and an option that was unset
stays so.  The default then takes effect.
-/

namespace EntityQuery

/-- The value adds nothing to the option, not even an empty list. -/
def OptionName.Ignores : OptionName → Json → Prop
  | .list option, value => option.holdsNothing = false ∧ option.leaves value = []
  | .count _, _ | .flag _, _ => False

theorem OptionName.mem_all (name : OptionName) : name ∈ all := by
  cases name with
  | list option => cases option <;> decide
  | count option => cases option <;> decide
  | flag option => cases option <;> decide

namespace Options

variable {options changed : Options} {name : OptionName}

/-- The option is listed as set, and it is taken from these options whatever the defaults are. -/
def Prevails (options : Options) (name : OptionName) : Prop :=
  name ∈ options.setNames ∧ ∃ held, options.held? name = some held ∧
    ∀ defaults : Options, (options.withDefaults defaults).held? name = some held

theorem mem_setNames_iff : name ∈ options.setNames ↔ options.isSet name = true := by
  rw [setNames, List.mem_filter, and_iff_right name.mem_all]

theorem held?_withDefaults (options defaults : Options) (name : OptionName) :
    (options.withDefaults defaults).held? name =
      (options.held? name).or (defaults.held? name) :=
  rfl

theorem held?_withDefaults_of_mem (defaults : Options) (listed : name ∈ options.setNames) :
    (options.withDefaults defaults).held? name = options.held? name := by
  obtain ⟨held, holds⟩ := Option.isSome_iff_exists.1 (mem_setNames_iff.1 listed)
  rw [held?_withDefaults, holds, Option.some_or]

theorem held?_withDefaults_of_not_mem (defaults : Options) (missing : name ∉ options.setNames) :
    (options.withDefaults defaults).held? name = defaults.held? name := by
  have none : options.held? name = none :=
    Option.not_isSome_iff_eq_none.1 fun isSet => missing (mem_setNames_iff.2 isSet)
  rw [held?_withDefaults, none, Option.none_or]

theorem prevails_iff_isSet : options.Prevails name ↔ options.isSet name = true := by
  constructor
  · exact fun prevails => mem_setNames_iff.1 prevails.1
  · intro isSet
    have listed := mem_setNames_iff.2 isSet
    obtain ⟨held, holds⟩ := Option.isSome_iff_exists.1 isSet
    exact ⟨listed, held, holds, fun defaults => (held?_withDefaults_of_mem defaults listed).trans
      holds⟩

theorem isSet_put (options : Options) (name : OptionName) (held : name.Held) :
    (options.put name held).isSet name = true := by
  rw [isSet, put, held?_update_same]
  rfl

/-- An option is set after a value was added to it, unless it was unset and the value adds
nothing. -/
theorem isSet_add_iff {value : Json} {held : name.Held} (read : name.read value = .ok held) :
    (options.add name held).isSet name = true ↔
      options.isSet name = true ∨ ¬name.Ignores value := by
  cases name with
  | list option =>
      have vacant : held = [] ↔ option.leaves value = [] :=
        (ListOption.lists_of_read read).eq_nil_iff
      by_cases kept : held ≠ [] ∨ option.holdsNothing = true
      · have set : (options.append option held).isSet (.list option) = true := by
          rw [append_eq_put options kept]
          exact isSet_put ..
        refine iff_of_true set (.inr fun ignored => ?_)
        rcases kept with shown | holds
        · exact shown (vacant.2 ignored.2)
        · exact Bool.false_ne_true (ignored.1.symm.trans holds)
      · have same : options.append option held = options := append_eq_self options kept
        have ignored : OptionName.Ignores (.list option) value := by
          obtain ⟨nothing, unheld⟩ := not_or.1 kept
          exact ⟨Bool.eq_false_iff.2 unheld, vacant.1 (not_not.1 nothing)⟩
        rw [or_iff_left (not_not.2 ignored)]
        exact iff_of_eq (congrArg (fun reached => reached.isSet (.list option) = true) same)
  | count option | flag option => exact iff_of_true (isSet_put ..) (.inr id)

/-- An option that is set to a value prevails over its default exactly if it was set before or the
value adds something.  Of all options, those that are listed as set are taken from these options,
and the others from the defaults. -/
theorem prevails_after_set_iff {spelling : String} {value : Json}
    (found : named spelling = .ok name) (given : value ≠ .null)
    (set : options.set spelling (some value) = (changed, .ok ())) :
    (changed.Prevails name ↔ options.isSet name = true ∨ ¬name.Ignores value) ∧
      ∀ (defaults : Options) (other : OptionName),
        (other ∈ changed.setNames →
          (changed.withDefaults defaults).held? other = changed.held? other) ∧
        (other ∉ changed.setNames →
          (changed.withDefaults defaults).held? other = defaults.held? other) := by
  obtain ⟨held, read, rfl⟩ := (set_eq_ok found given).1 set
  refine ⟨prevails_iff_isSet.trans (isSet_add_iff read), fun defaults other => ⟨?_, ?_⟩⟩
  · exact held?_withDefaults_of_mem defaults
  · exact held?_withDefaults_of_not_mem defaults

/-- Of no fields to select, there is a list all the same. -/
theorem prevails_after_set_of_noFields :
    ∃ changed, unset.set "fields" (some (.array [])) = (changed, .ok ()) ∧
      changed.Prevails (.list .fields) := by
  have found : named "fields" = .ok (.list .fields) := rfl
  have set : unset.set "fields" (some (.array [])) =
      (unset.put (.list .fields) [], .ok ()) := rfl
  have given : Json.array [] ≠ .null := nofun
  refine ⟨_, set, (prevails_after_set_iff found given set).1.2 (.inr ?_)⟩
  exact fun ignored => nomatch ignored.1

end Options

/-- A filter that applies to every query without one of its own. -/
def Sample.filtered : Options := Options.unset.put (.list .filter) [.raw ⟨"id > 0", []⟩]

/-- A filter that is set to no conditions is not listed as set, and the default filter applies. -/
theorem Options.default_of_noConditions :
    ∃ changed, Options.unset.set "where" (some (.array [])) = (changed, .ok ()) ∧
      changed.setNames = [] ∧
      (changed.withDefaults Sample.filtered).items .filter = [.raw ⟨"id > 0", []⟩] :=
  ⟨_, rfl, by decide, rfl⟩

end EntityQuery

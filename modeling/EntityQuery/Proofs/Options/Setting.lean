import EntityQuery.Options
import EntityQuery.Proofs.Options.Numbers
import EntityQuery.Proofs.Options.Reading

/-!
# Setting options

An option that is set from JSON is read before anything is changed.  So a failure leaves every
option as it was, and a success changes nothing but the option that is named.
-/

namespace EntityQuery

namespace OptionName

theorem ofText?_eq_some {spelling : String} {name : OptionName} :
    ofText? spelling = some name ↔ spelling = name.text ∨ spelling = name.snakeText := by
  constructor
  · intro found
    have spelt := List.find?_some found
    simp only [Bool.or_eq_true, beq_iff_eq] at spelt
    exact spelt.imp Eq.symm Eq.symm
  · rintro (rfl | rfl) <;> cases name with
    | list option => cases option <;> rfl
    | count option => cases option <;> rfl
    | flag option => cases option <;> rfl

end OptionName

namespace Options

variable {options : Options}

@[simp]
theorem held?_update_same (options : Options) (name : OptionName) (held : Option name.Held) :
    (options.update name held).held? name = held := by
  simp [update]

theorem held?_update_of_ne {name other : OptionName} (different : other ≠ name)
    (held : Option name.Held) : (options.update name held).held? other = options.held? other :=
  dif_neg different.symm

theorem named_eq_ok {spelling : String} {name : OptionName} :
    named spelling = .ok name ↔ spelling = name.text ∨ spelling = name.snakeText := by
  rw [← OptionName.ofText?_eq_some]
  unfold named
  cases OptionName.ofText? spelling <;> simp

theorem named_text (name : OptionName) : named name.text = .ok name := named_eq_ok.2 (.inl rfl)

/-- The options differ in one option at most. -/
def AgreesOutside (name : OptionName) (options changed : Options) : Prop :=
  ∀ other, other ≠ name → changed.held? other = options.held? other

theorem agreesOutside_append (option : ListOption) (items : List option.Item) :
    AgreesOutside (.list option) options (options.append option items) := by
  intro other different
  unfold append
  split
  · rfl
  · exact held?_update_of_ne different _

theorem agreesOutside_add (name : OptionName) (held : name.Held) :
    AgreesOutside name options (options.add name held) := by
  cases name with
  | list option => exact agreesOutside_append option held
  | count option | flag option => exact fun _ different => held?_update_of_ne different _

theorem append_eq_put (options : Options) {option : ListOption} {items : List option.Item}
    (kept : items ≠ [] ∨ option.holdsNothing = true) :
    options.append option items = options.put (.list option) (options.items option ++ items) := by
  refine if_neg fun skipped => ?_
  obtain ⟨nothing, unheld⟩ := Bool.and_eq_true_iff.1 skipped
  rcases kept with shown | holds
  · exact shown (List.isEmpty_iff.1 nothing)
  · rw [holds] at unheld
    exact Bool.false_ne_true unheld

theorem append_eq_self (options : Options) {option : ListOption} {items : List option.Item}
    (skipped : ¬(items ≠ [] ∨ option.holdsNothing = true)) :
    options.append option items = options := by
  obtain ⟨nothing, unheld⟩ := not_or.1 skipped
  refine if_pos (Bool.and_eq_true_iff.2 ⟨List.isEmpty_iff.2 (not_not.1 nothing), ?_⟩)
  rw [Bool.eq_false_iff.2 unheld]
  rfl

theorem items_append (options : Options) (option : ListOption) (items : List option.Item) :
    (options.append option items).items option = options.items option ++ items := by
  unfold append
  split
  · next nothing =>
      have empty : items = [] := List.isEmpty_iff.1 (Bool.and_eq_true_iff.1 nothing).1
      rw [empty, List.append_nil]
  · unfold Options.items put
    rw [held?_update_same]
    rfl

theorem isSet_append (options : Options) {option : ListOption} (items : List option.Item)
    (holds : option.holdsNothing = true) :
    (options.append option items).isSet (.list option) = true := by
  unfold append isSet put
  rw [holds, Bool.not_true, Bool.and_false, if_neg Bool.false_ne_true, held?_update_same]
  rfl

/-- What setting an option to a value makes of it.  Null unsets it; a flag or a count holds what
the value stands for; and a list is continued by the items of the value, in the order of its leaves.
Some lists are set even where the value has no items. -/
def Takes (options changed : Options) : OptionName → Json → Prop
  | name, .null => changed.held? name = none
  | .flag option, value => ∃ on, value = .bool on ∧ changed.held? (.flag option) = some on
  | .count option, value =>
      ∃ count, value.Counts count ∧ changed.count? option = some count
  | .list option, value =>
      ∃ items, option.Lists value items ∧ changed.items option = options.items option ++ items ∧
        (option.holdsNothing = true → changed.isSet (.list option) = true)

theorem takes_add {name : OptionName} {value : Json} {held : name.Held} (given : value ≠ .null)
    (read : name.read value = .ok held) : options.Takes (options.add name held) name value := by
  cases name with
  | list option =>
      rw [Takes]
      · exact ⟨held, ListOption.lists_of_read read, options.items_append option held,
          options.isSet_append held⟩
      · exact given
  | count option =>
      rw [Takes]
      · obtain ⟨counted, -⟩ := CountOption.read_eq_ok.1 read
        exact ⟨_, CountOption.counts_of_count? counted, held?_update_same options _ _⟩
      · exact given
  | flag option =>
      cases value with
      | bool on =>
          obtain rfl := Except.ok.inj read
          exact ⟨_, rfl, held?_update_same options _ _⟩
      | _ => contradiction

/-- Setting an option fails with every option as it was, or succeeds and changes only the option
that is named. -/
inductive Setting (options : Options) (spelling : String) :
    Option Json → Options × Except Error Unit → Prop
  | unknown {value : Option Json} {error : Error} : named spelling = .error error →
      Setting options spelling value (options, .error error)
  | unread {name : OptionName} {value : Json} {fault : OptionFault} :
      named spelling = .ok name → name.read value = .error fault →
      Setting options spelling (some value) (options, .error (.invalidOption name.text fault))
  | skipped (name : OptionName) : spelling = name.text ∨ spelling = name.snakeText →
      Setting options spelling none (options, .ok ())
  | taken {name : OptionName} {value : Json} {changed : Options} :
      spelling = name.text ∨ spelling = name.snakeText → AgreesOutside name options changed →
      options.Takes changed name value → Setting options spelling (some value) (changed, .ok ())

theorem Setting.takes {spelling : String} {name : OptionName} {value : Json} {changed : Options}
    (setting : options.Setting spelling (some value) (changed, .ok ()))
    (found : named spelling = .ok name) : options.Takes changed name value := by
  cases setting with
  | taken spelt others takes =>
      obtain rfl := Except.ok.inj (found.symm.trans (named_eq_ok.2 spelt))
      exact takes

theorem setting_apply {spelling : String} {name : OptionName} {value : Json}
    (found : named spelling = .ok name) (given : value ≠ .null) :
    options.Setting spelling (some value) (options.apply name value) := by
  unfold apply
  cases read : name.read value with
  | error fault => exact .unread found read
  | ok held =>
      exact .taken (named_eq_ok.1 found) (agreesOutside_add name held) (takes_add given read)

theorem clearNamed_text (options : Options) (name : OptionName) :
    options.clearNamed name.text = (options.clear name, .ok ()) := by
  unfold clearNamed
  rw [named_text]

/-- Setting an option to a value succeeds with what is read of the value added to it. -/
theorem set_eq_ok {spelling : String} {name : OptionName} {value : Json} {changed : Options}
    (found : named spelling = .ok name) (given : value ≠ .null) :
    options.set spelling (some value) = (changed, .ok ()) ↔
      ∃ held, name.read value = .ok held ∧ changed = options.add name held := by
  have applied : options.set spelling (some value) = options.apply name value := by
    unfold Options.set
    rw [found]
    cases value with
    | null => exact absurd rfl given
    | _ => rfl
  rw [applied, apply]
  cases name.read value with
  | error fault => simp
  | ok held => simp [eq_comm]

theorem setting_set (options : Options) (spelling : String) (value : Option Json) :
    options.Setting spelling value (options.set spelling value) := by
  unfold set
  cases found : named spelling with
  | error error => exact .unknown found
  | ok name =>
      dsimp only
      split
      · exact .skipped name (named_eq_ok.1 found)
      · rw [clearNamed_text]
        have others : AgreesOutside name options (options.clear name) :=
          fun _ different => held?_update_of_ne different none
        refine .taken (named_eq_ok.1 found) others ?_
        rw [Takes]
        exact held?_update_same options name none
      · next given => exact setting_apply found given

/-- The entries of an object are set one after the other, and none fails. -/
inductive SetsInTurn : Options → Record → Options → Prop
  | nil (options : Options) : SetsInTurn options [] options
  | cons {options changed last : Options} {spelling : String} {value : Json} {rest : Record} :
      options.set spelling (some value) = (changed, .ok ()) → SetsInTurn changed rest last →
      SetsInTurn options ((spelling, value) :: rest) last

/-- Setting all entries of an object sets them in turn, up to the first that fails. -/
inductive SettingAll (options : Options) : Record → Options × Except Error Unit → Prop
  | done {record : Record} {last : Options} :
      options.SetsInTurn record last → SettingAll options record (last, .ok ())
  | stopped {before after : Record} {reached left : Options} {spelling : String} {value : Json}
      {error : Error} : options.SetsInTurn before reached →
      reached.set spelling (some value) = (left, .error error) →
      SettingAll options (before ++ (spelling, value) :: after) (reached, .error error)

theorem settingAll_setAll (options : Options) (record : Record) :
    options.SettingAll record (options.setAll record) := by
  induction record generalizing options with
  | nil => exact .done (.nil options)
  | cons entry rest ih =>
      obtain ⟨spelling, value⟩ := entry
      have first := options.setting_set spelling (some value)
      unfold setAll
      cases reached : options.set spelling (some value) with
      | mk changed result =>
          cases result with
          | ok _ =>
              dsimp only
              have others := ih changed
              generalize changed.setAll rest = ended at others ⊢
              cases others with
              | done turns => exact .done (.cons reached turns)
              | stopped turns failed => exact .stopped (.cons reached turns) failed
          | error error =>
              have none : options.SetsInTurn [] options := .nil options
              rw [reached] at first
              cases first with
              | unknown | unread => exact SettingAll.stopped none reached

/-- Setting an option is atomic and touches no other option.  Setting the entries of an object is
setting them in turn up to the first that fails, and unsetting an option is setting it to null. -/
theorem setting_of_set (options : Options) :
    (∀ spelling value, options.Setting spelling value (options.set spelling value)) ∧
      (∀ record, options.SettingAll record (options.setAll record)) ∧
      ∀ spelling, options.clearNamed spelling = options.set spelling (some .null) := by
  refine ⟨options.setting_set, options.settingAll_setAll, fun spelling => ?_⟩
  unfold set
  cases found : named spelling with
  | error error =>
      unfold clearNamed
      rw [found]
  | ok name =>
      dsimp only
      rw [clearNamed_text]
      unfold clearNamed
      rw [found]

end Options

/-- Options with an ordering. -/
def Sample.ordered : Options := Options.unset.put (.list .orderBy) [⟨.name "id", .ascending⟩]

/-- Seven becomes the limit, and the ordering is continued by a term in descending order. -/
theorem Options.setting_of_limitAndOrder :
    ∃ limited continued, Sample.ordered.set "limit" (some (.integer 7)) = (limited, .ok ()) ∧
      limited.count? .limit = some 7 ∧
      Sample.ordered.set "order_by" (some (.object [("age", .string "Desc")])) =
        (continued, .ok ()) ∧
      continued.items .orderBy = [⟨.name "id", .ascending⟩, ⟨.name "age", .descending⟩] := by
  obtain ⟨setting, -, -⟩ := setting_of_set Sample.ordered
  obtain ⟨limited, set⟩ : ∃ limited,
      Sample.ordered.set "limit" (some (.integer 7)) = (limited, .ok ()) := ⟨_, rfl⟩
  obtain ⟨continued, setOrder⟩ : ∃ continued,
      Sample.ordered.set "order_by" (some (.object [("age", .string "Desc")])) =
        (continued, .ok ()) := ⟨_, rfl⟩
  have limit := setting "limit" (some (.integer 7))
  have order := setting "order_by" (some (.object [("age", .string "Desc")]))
  rw [set] at limit
  rw [setOrder] at order
  have limitNamed : named "limit" = .ok (.count .limit) := rfl
  have orderNamed : named "order_by" = .ok (.list .orderBy) := rfl
  obtain ⟨count, counts, held⟩ := limit.takes limitNamed
  obtain ⟨items, lists, continuedBy, -⟩ := order.takes orderNamed
  refine ⟨limited, continued, set, ?_, setOrder, ?_⟩
  · cases counts with
    | whole _ stands whole =>
        obtain rfl := Option.some.inj stands
        rw [held, ← Int.natCast_inj.1 whole]
    | greatest exceeds =>
        obtain ⟨number, same, -⟩ := exceeds
        contradiction
  · obtain ⟨term, _, ⟨direction, directs, rfl⟩, none, rfl⟩ := List.forall₂_cons_left_iff.1 lists
    obtain rfl := List.forall₂_nil_left_iff.1 none
    rw [continuedBy]
    cases directs with
    | asc spelt => exact absurd spelt.length_eq (by decide)
    | desc => rfl

end EntityQuery

import EntityQuery.Proofs.Options.Setting

/-!
# List options from arrays

An array stands for its items one by one.  The readers of list options differ in what they take for
an item and in what an item alone may be, but each reads from an array what it reads from its items,
in order.  As lists that are appended in turn are appended at once, setting an option to an array is
setting it to the items, from left to right.
-/

namespace EntityQuery

open Outcome

/-- A value that can be an item of an array and a value of its own: neither null, which clears, nor
an array. -/
def Json.IsItem (value : Json) : Prop := value ≠ .null ∧ ∀ items, value ≠ .array items

namespace ListOption

variable {α β : Type}

/-- The reader finds the lists in the items, in order. -/
def ReadsGroups (read : Json → Except OptionFault (List α)) (items : List Json)
    (groups : List (List α)) : Prop :=
  List.Forall₂ (fun item group => read item = .ok group) items groups

theorem exists_readsGroups_iff {read : Json → Except OptionFault (List α)} {items : List Json} :
    (∃ groups, ReadsGroups read items groups) ↔ ∀ item ∈ items, ∃ group, read item = .ok group := by
  induction items with
  | nil => exact iff_of_true ⟨[], .nil⟩ (List.forall_mem_nil _)
  | cons item rest ih =>
      rw [List.forall_mem_cons, ← ih]
      constructor
      · rintro ⟨_, first | ⟨first, others⟩⟩
        exact ⟨⟨_, first⟩, _, others⟩
      · rintro ⟨⟨group, first⟩, groups, others⟩
        exact ⟨group :: groups, .cons first others⟩

/-- The reader reads from an array what it reads from its items, in order. -/
def ReadsItemwise (read : Json → Except OptionFault (List α)) : Prop :=
  ∀ items held, (∀ item ∈ items, ∀ others, item ≠ .array others) →
    (read (.array items) = .ok held ↔ ∃ groups, ReadsGroups read items groups ∧
      held = groups.flatten)

theorem ReadsItemwise.map {read : Json → Except OptionFault (List α)}
    (itemwise : ReadsItemwise read) (change : α → β) :
    ReadsItemwise fun value => List.map change <$> read value := by
  have mapped (value : Json) (held : List β) : List.map change <$> read value = .ok held ↔
      ∃ kept, read value = .ok kept ∧ kept.map change = held := by
    rw [map_eq_pure_bind, bind_eq_ok]
    simp only [pure_eq_ok]
  intro items held plain
  rw [mapped]
  constructor
  · rintro ⟨kept, read, rfl⟩
    obtain ⟨groups, each, rfl⟩ := (itemwise items kept plain).1 read
    refine ⟨groups.map (List.map change), ?_, List.map_flatten⟩
    exact List.forall₂_map_right_iff.2 (each.imp fun item group given => (mapped ..).2
      ⟨group, given, rfl⟩)
  · rintro ⟨groups, each, rfl⟩
    obtain ⟨kept, given, rfl⟩ : ∃ kept, ReadsGroups read items kept ∧
        groups = kept.map (List.map change) := by
      clear plain
      induction each with
      | nil => exact ⟨[], .nil, rfl⟩
      | cons first _ ih =>
          obtain ⟨group, read, rfl⟩ := (mapped ..).1 first
          obtain ⟨kept, others, rfl⟩ := ih
          exact ⟨group :: kept, .cons read others, rfl⟩
    exact ⟨kept.flatten, (itemwise items _ plain).2 ⟨kept, given, rfl⟩, List.map_flatten⟩

/-- A reader for one item reads an array itemwise, if a value alone stands for the item that it is
in an array. -/
theorem readsItemwise_of_each {read : Json → Except OptionFault (List α)}
    {each : Json → Except OptionFault α} (array : ∀ items, read (.array items) = items.mapM each)
    (alone : ∀ value, (∀ items, value ≠ .array items) → ∀ group,
      read value = .ok group ↔ ∃ item, each value = .ok item ∧ group = [item]) :
    ReadsItemwise read := by
  intro items held plain
  rw [array, mapM_eq_ok]
  constructor
  · intro given
    refine ⟨held.map fun item => [item], ?_, (List.flatMap_singleton' held).symm⟩
    refine List.forall₂_map_right_iff.2 ?_
    refine ((List.forall₂_and_left _ _).2 ⟨plain, given⟩).imp ?_
    rintro value item ⟨single, made⟩
    exact (alone value single [item]).2 ⟨item, made, rfl⟩
  · rintro ⟨groups, given, rfl⟩
    induction given with
    | nil => exact .nil
    | cons first _ ih =>
        obtain ⟨single, others⟩ := List.forall_mem_cons.1 plain
        obtain ⟨item, made, rfl⟩ := (alone _ single _).1 first
        exact .cons made (ih others)

theorem readsItemwise_columns : ReadsItemwise columns := by
  have alone {value : Json} (single : ∀ items, value ≠ .array items) :
      columns value = columnGroup value := by
    cases value with
    | array items => exact absurd rfl (single items)
    | _ => rfl
  intro items held plain
  rw [columns, map_eq_pure_bind, bind_eq_ok]
  constructor
  · rintro ⟨groups, given, whole⟩
    refine ⟨groups, ?_, (pure_eq_ok.1 whole).symm⟩
    refine ((List.forall₂_and_left _ _).2 ⟨plain, mapM_eq_ok.1 given⟩).imp ?_
    rintro item group ⟨single, read⟩
    rwa [alone single]
  · rintro ⟨groups, given, rfl⟩
    refine ⟨groups, mapM_eq_ok.2 ?_, rfl⟩
    refine ((List.forall₂_and_left _ _).2 ⟨plain, given⟩).imp ?_
    rintro item group ⟨single, read⟩
    rwa [alone single] at read

theorem readsItemwise_conditions : ReadsItemwise conditions := by
  refine readsItemwise_of_each (fun _ => rfl) fun value single group => ?_
  have alone : conditions value = (fun item => [item]) <$> condition value := by
    cases value with
    | array items => exact absurd rfl (single items)
    | _ => rfl
  rw [alone, map_eq_pure_bind, bind_eq_ok]
  exact exists_congr fun item => and_congr_right fun _ => pure_eq_ok.trans eq_comm

/-- A name alone is read as it is in an array, though what is said of other values differs. -/
theorem readsItemwise_names : ReadsItemwise names := by
  refine readsItemwise_of_each (fun _ => rfl) fun value single group => ?_
  cases value with
  | array items => exact absurd rfl (single items)
  | string name => simp [names, listedName, eq_comm]
  | _ => simp [names, listedName]

theorem readsItemwise_orderTerms : ReadsItemwise orderTerms := by
  intro items held plain
  clear plain
  rw [orderTerms]
  induction items generalizing held with
  | nil => simp [orderTermsOfItems, ReadsGroups, eq_comm]
  | cons item rest ih =>
      rw [orderTermsOfItems, bind_eq_ok]
      constructor
      · rintro ⟨group, first, more⟩
        obtain ⟨others, given, whole⟩ := bind_eq_ok.1 more
        obtain ⟨groups, each, rfl⟩ := (ih others).1 given
        exact ⟨group :: groups, .cons first each, (pure_eq_ok.1 whole).symm⟩
      · rintro ⟨_, first | ⟨first, each⟩, rfl⟩
        exact ⟨_, first, bind_eq_ok.2 ⟨_, (ih _).2 ⟨_, each, rfl⟩, rfl⟩⟩

/-- Every list option reads from an array what it reads from the items. -/
theorem readsItemwise_read (option : ListOption) : ReadsItemwise option.read := by
  cases option with
  | fields => exact readsItemwise_columns
  | filter | having => exact readsItemwise_conditions
  | groupBy => exact readsItemwise_names.map Target.name
  | orderBy => exact readsItemwise_orderTerms
  | lockedTables => exact readsItemwise_names

end ListOption

namespace Options

variable {options changed : Options} {option : ListOption} {spelling : String}

theorem put_put (options : Options) (name : OptionName) (first second : name.Held) :
    (options.put name first).put name second = options.put name second := by
  refine congrArg Options.mk (funext fun other => ?_)
  by_cases same : name = other
  · subst same
    rw [dif_pos rfl, dif_pos rfl]
  · rw [dif_neg same, dif_neg same]
    exact dif_neg same

/-- Lists that are appended in turn are appended at once, also where no items are held. -/
theorem append_append (options : Options) (option : ListOption) (first second : List option.Item) :
    (options.append option first).append option second =
      options.append option (first ++ second) := by
  by_cases kept : first ≠ [] ∨ option.holdsNothing = true
  · have both : first ++ second ≠ [] ∨ option.holdsNothing = true :=
      kept.imp_left fun shown => List.append_ne_nil_of_left_ne_nil shown second
    by_cases keptToo : second ≠ [] ∨ option.holdsNothing = true
    · rw [append_eq_put _ keptToo, items_append, append_eq_put _ kept, put_put,
        append_eq_put _ both, List.append_assoc]
    · have nothing : second = [] := not_not.1 (not_or.1 keptToo).1
      rw [append_eq_self _ keptToo, nothing, List.append_nil]
  · have nothing : first = [] := not_not.1 (not_or.1 kept).1
    rw [append_eq_self options kept, nothing, List.nil_append]

theorem set_list_eq_ok {value : Json} (found : named spelling = .ok (.list option))
    (given : value ≠ .null) :
    options.set spelling (some value) = (changed, .ok ()) ↔
      ∃ items, option.read value = .ok items ∧ changed = options.append option items :=
  set_eq_ok found given

theorem setsInTurn_cons_iff {value : Json} {rest : Record} :
    options.SetsInTurn ((spelling, value) :: rest) changed ↔
      ∃ reached, options.set spelling (some value) = (reached, .ok ()) ∧
        reached.SetsInTurn rest changed := by
  constructor
  · rintro (_ | ⟨set, others⟩)
    exact ⟨_, set, others⟩
  · rintro ⟨reached, set, others⟩
    exact .cons set others

theorem setsInTurn_nil_iff : options.SetsInTurn [] changed ↔ changed = options := by
  constructor
  · rintro ⟨⟩
    rfl
  · rintro rfl
    exact .nil changed

/-- Setting an option to items in turn succeeds with all that is read of them appended at once. -/
theorem setsInTurn_iff (found : named spelling = .ok (.list option)) {items : List Json}
    (nonempty : items ≠ []) (given : ∀ item ∈ items, item ≠ .null) :
    options.SetsInTurn (items.map fun item => (spelling, item)) changed ↔
      ∃ groups, ListOption.ReadsGroups option.read items groups ∧
        changed = options.append option groups.flatten := by
  induction items generalizing options with
  | nil => exact absurd rfl nonempty
  | cons item rest ih =>
      obtain ⟨alone, others⟩ := List.forall_mem_cons.1 given
      rw [List.map_cons, setsInTurn_cons_iff]
      simp only [set_list_eq_ok found alone]
      cases rest with
      | nil =>
          simp only [List.map_nil, setsInTurn_nil_iff]
          constructor
          · rintro ⟨_, ⟨group, read, rfl⟩, rfl⟩
            exact ⟨[group], .cons read .nil, by rw [List.flatten_singleton]⟩
          · rintro ⟨_, read | ⟨read, ⟨⟩⟩, rfl⟩
            exact ⟨_, ⟨_, read, rfl⟩, by rw [List.flatten_singleton]⟩
      | cons next more =>
          simp only [ih (List.cons_ne_nil next more) others]
          constructor
          · rintro ⟨_, ⟨group, read, rfl⟩, groups, each, rfl⟩
            exact ⟨group :: groups, .cons read each, append_append ..⟩
          · rintro ⟨_, read | ⟨read, each⟩, rfl⟩
            exact ⟨_, ⟨_, read, rfl⟩, _, each, (append_append ..).symm⟩

/-- An array can be set exactly if each of its items can be set alone, and it is then set as the
items are from left to right. -/
theorem set_array_iff (found : named spelling = .ok (.list option)) {items : List Json}
    (nonempty : items ≠ []) (single : ∀ item ∈ items, item.IsItem) :
    ((∃ changed, options.set spelling (some (.array items)) = (changed, .ok ())) ↔
      ∀ item ∈ items, ∃ changed, options.set spelling (some item) = (changed, .ok ())) ∧
    ∀ changed, options.set spelling (some (.array items)) = (changed, .ok ()) ↔
      options.SetsInTurn (items.map fun item => (spelling, item)) changed := by
  have given : ∀ item ∈ items, item ≠ .null := fun item member => (single item member).1
  have plain : ∀ item ∈ items, ∀ others, item ≠ .array others :=
    fun item member => (single item member).2
  have array (changed : Options) :
      options.set spelling (some (.array items)) = (changed, .ok ()) ↔
        ∃ groups, ListOption.ReadsGroups option.read items groups ∧
          changed = options.append option groups.flatten := by
    have shown : Json.array items ≠ .null := nofun
    rw [set_list_eq_ok found shown]
    constructor
    · rintro ⟨held, read, rfl⟩
      obtain ⟨groups, each, rfl⟩ := (option.readsItemwise_read items held plain).1 read
      exact ⟨groups, each, rfl⟩
    · rintro ⟨groups, each, rfl⟩
      exact ⟨_, (option.readsItemwise_read items _ plain).2 ⟨groups, each, rfl⟩, rfl⟩
  have alone {item : Json} (member : item ∈ items) :
      (∃ changed, options.set spelling (some item) = (changed, .ok ())) ↔
        ∃ group, option.read item = .ok group := by
    simp only [set_list_eq_ok found (given item member)]
    exact ⟨fun ⟨_, group, read, _⟩ => ⟨group, read⟩, fun ⟨group, read⟩ => ⟨_, group, read, rfl⟩⟩
  refine ⟨?_, fun changed => (array changed).trans (setsInTurn_iff found nonempty given).symm⟩
  calc (∃ changed, options.set spelling (some (.array items)) = (changed, .ok ()))
      ↔ ∃ groups, ListOption.ReadsGroups option.read items groups := by
        simp only [array]
        exact ⟨fun ⟨_, groups, each, _⟩ => ⟨groups, each⟩, fun ⟨groups, each⟩ =>
          ⟨_, groups, each, rfl⟩⟩
    _ ↔ ∀ item ∈ items, ∃ group, option.read item = .ok group :=
        ListOption.exists_readsGroups_iff
    _ ↔ ∀ item ∈ items, ∃ changed, options.set spelling (some item) = (changed, .ok ()) :=
        forall₂_congr fun _ member => (alone member).symm

/-- An ordering by a name, then by two fields with a direction each. -/
theorem set_array_of_orderings :
    let items := [Json.string "note", .object [("id", .integer (-1)), ("age", .string "Asc")]]
    let changed := Options.unset.append .orderBy
      [⟨.name "note", .ascending⟩, ⟨.name "id", .descending⟩, ⟨.name "age", .ascending⟩]
    unset.set "order_by" (some (.array items)) = (changed, .ok ()) ∧
      unset.SetsInTurn (items.map fun item => ("order_by", item)) changed := by
  intro items changed
  have single : ∀ item ∈ items, item.IsItem := by
    intro item member
    simp only [items, List.mem_cons, List.not_mem_nil, or_false] at member
    rcases member with rfl | rfl <;> exact ⟨nofun, nofun⟩
  have found : named "order_by" = .ok (.list .orderBy) := rfl
  have set : unset.set "order_by" (some (.array items)) = (changed, .ok ()) := rfl
  exact ⟨set, ((set_array_iff found (List.cons_ne_nil _ _) single).2 changed).1 set⟩

end Options

end EntityQuery

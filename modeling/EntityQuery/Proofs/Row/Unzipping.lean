import EntityQuery.Proofs.Row.Ambiguity

/-!
# Records without ambiguous names

Where aliases are distinct and no name is ambiguous, every column finds its place: one without a
dot under its alias, and one of a join inside the entry of that join, in the order of the columns.
-/

namespace EntityQuery

theorem Text.eq_of_splitFirst? {mark : Char} {text before after : String}
    (split : splitFirst? mark text = some (before, after)) :
    text.toList = before.toList ++ mark :: after.toList := by
  by_cases member : mark ∈ text.toList
  · obtain ⟨front, back, spelled, first⟩ := List.eq_append_cons_of_mem member
    have found : splitFirst? mark text = some (.ofList front, .ofList back) :=
      splitFirst?_of_append (by rwa [String.toList_ofList]) (by simpa using spelled)
    obtain ⟨rfl, rfl⟩ := Prod.mk.inj (Option.some.inj (found.symm.trans split))
    simpa using spelled
  · exact nomatch (splitFirst?_of_absent member).symm.trans split

namespace Row

variable {aliases : List String} {values : List Json} {columns : List (String × Json)}
  {join columnAlias other field : String}

/-- The name that a column has inside a join, if it belongs to it. -/
def fieldIn (join columnAlias : String) : Option String :=
  match splitAlias columnAlias with
  | some (found, field) => if found = join then some field else none
  | none => none

/-- The entries of a join: the names inside it with their values, in the order of the columns. -/
def joinEntries (columns : List (String × Json)) (join : String) : Record :=
  columns.filterMap fun column => (fieldIn join column.1).map (·, column.2)

theorem fieldIn_eq_some :
    fieldIn join columnAlias = some field ↔ splitAlias columnAlias = some (join, field) := by
  unfold fieldIn
  cases splitAlias columnAlias with
  | none => exact iff_of_false nofun nofun
  | some parts =>
      obtain ⟨found, name⟩ := parts
      dsimp only
      split_ifs with same
      · simp [same]
      · simp [same]

theorem joinEntries_cons {column : String × Json}
    (split : splitAlias column.1 = some (join, field)) :
    joinEntries (column :: columns) join = (field, column.2) :: joinEntries columns join := by
  rw [joinEntries, List.filterMap_cons, fieldIn_eq_some.2 split]
  rfl

/-- An alias is known by the join and the name inside it. -/
theorem eq_of_splitAlias (split : splitAlias columnAlias = some (join, field))
    (same : splitAlias other = some (join, field)) : columnAlias = other :=
  String.toList_injective ((Text.eq_of_splitFirst? split).trans (Text.eq_of_splitFirst? same).symm)

theorem keys_joinEntries (columns : List (String × Json)) (join : String) :
    (joinEntries columns join).keys = (columns.map Prod.fst).filterMap (fieldIn join) := by
  unfold joinEntries Record.keys
  rw [List.map_filterMap, List.filterMap_map]
  refine List.filterMap_congr fun column _ => ?_
  dsimp only [Function.comp]
  cases fieldIn join column.1 <;> rfl

theorem keys_joinEntries_nodup (distinct : (columns.map Prod.fst).Nodup) (join : String) :
    (joinEntries columns join).keys.Nodup := by
  rw [keys_joinEntries]
  refine distinct.filterMap fun first second field one two => ?_
  exact eq_of_splitAlias (fieldIn_eq_some.1 one) (fieldIn_eq_some.1 two)

/-- The columns of a join are among those of its name. -/
theorem joinEntries_columnsOf (columns : List (String × Json)) (join : String) :
    joinEntries (columnsOf columns join) join = joinEntries columns join := by
  unfold joinEntries columnsOf
  rw [List.filterMap_filter]
  refine List.filterMap_congr fun column _ => ?_
  split_ifs with same
  · rfl
  · cases inside : fieldIn join column.1 with
    | none => rfl
    | some field =>
        exact absurd (by simpa using entryName_of_joined (fieldIn_eq_some.1 inside)) same

namespace Entry

/-- Columns of a join with new names are put at the end of its entries. -/
theorem foldlM_joined {entries : Record}
    (inside : ∀ column ∈ columns, ∃ field, splitAlias column.1 = some (join, field))
    (distinct : (entries.keys ++ (joinEntries columns join).keys).Nodup) :
    columns.foldlM add (.joined entries) =
      some (.joined (entries ++ joinEntries columns join)) := by
  induction columns generalizing entries with
  | nil => simp [joinEntries]
  | cons column rest ih =>
      obtain ⟨⟨field, split⟩, others⟩ := List.forall_mem_cons.1 inside
      rw [joinEntries_cons split] at distinct ⊢
      have fresh : field ∉ entries.keys := fun member =>
        (List.nodup_append.1 distinct).2.2 field member field List.mem_cons_self rfl
      have taken : add (.joined entries) column =
          some (.joined (entries ++ [(field, column.2)])) := by
        simp only [add, split, Record.insert_of_absent fresh]
      rw [List.foldlM_cons, taken]
      refine (ih others ?_).trans ?_
      · simpa [Record.keys] using distinct
      · rw [List.append_assoc, List.singleton_append]

theorem ofColumns?_of_joined (nonempty : columns ≠ [])
    (inside : ∀ column ∈ columns, ∃ field, splitAlias column.1 = some (join, field))
    (distinct : (columns.map Prod.fst).Nodup) :
    ofColumns? columns = some (.joined (joinEntries columns join)) := by
  have names := keys_joinEntries_nodup distinct join
  cases columns with
  | nil => exact absurd rfl nonempty
  | cons column rest =>
      obtain ⟨⟨field, split⟩, others⟩ := List.forall_mem_cons.1 inside
      have taken : vacant.add column = some (.joined [(field, column.2)]) := by
        simp only [add, split]
      rw [joinEntries_cons split] at names ⊢
      rw [ofColumns?, List.foldlM_cons, taken]
      exact foldlM_joined others names

end Entry

/-- Every column has its place in the record: under its alias, or inside the entry of its join,
which is null where it has nothing but nulls. -/
structure Places (columns : List (String × Json)) (record : Record) : Prop where
  keys : record.keys = (columns.map fun column => entryName column.1).eraseDups
  own : ∀ column ∈ columns, IsOwn column.1 → record.find? column.1 = some column.2
  unmatched : ∀ column ∈ columns, ∀ join field, splitAlias column.1 = some (join, field) →
    (∀ entry ∈ joinEntries columns join, entry.2 = .null) → record.find? join = some .null
  joined : ∀ column ∈ columns, ∀ join field, splitAlias column.1 = some (join, field) →
    (∃ entry ∈ joinEntries columns join, entry.2 ≠ .null) →
      record.find? join = some (.object (joinEntries columns join))

section Clear

variable (clear : ∀ name, ¬IsAmbiguous (columns.map Prod.fst) name)
include clear

/-- A column with a value of its own is the only one of its name. -/
theorem columnsOf_own (distinct : (columns.map Prod.fst).Nodup) {column : String × Json}
    (member : column ∈ columns) (own : IsOwn column.1) :
    columnsOf columns column.1 = [column] := by
  have alike : ∀ other ∈ columnsOf columns column.1, other = column := by
    intro other found
    obtain ⟨listed, same⟩ := mem_columnsOf.1 found
    by_cases plain : IsOwn other.1
    · rw [entryName_of_own plain] at same
      exact List.inj_on_of_nodup_map distinct listed member same
    · obtain ⟨name, split⟩ := not_isOwn_iff.1 plain
      rw [same] at split
      exact absurd (isAmbiguous_of_mem member own listed split) (clear column.1)
  have repeated := List.eq_replicate_of_mem alike
  have once : (columnsOf columns column.1).Nodup := (distinct.of_map _).filter _
  have found := mem_columnsOf.2 ⟨member, entryName_of_own own⟩
  rw [repeated, List.nodup_replicate] at once
  rw [repeated, le_antisymm once (List.length_pos_of_mem found), List.replicate_one]

/-- The columns of the name of a join all belong to it. -/
theorem splitAlias_of_mem_columnsOf {column other : String × Json} (member : column ∈ columns)
    (split : splitAlias column.1 = some (join, field)) (inside : other ∈ columnsOf columns join) :
    ∃ name, splitAlias other.1 = some (join, name) := by
  obtain ⟨found, rfl⟩ := mem_columnsOf.1 inside
  by_cases own : IsOwn other.1
  · rw [entryName_of_own own] at split
    exact absurd (isAmbiguous_of_mem found own member split) (clear other.1)
  · exact not_isOwn_iff.1 own

/-- What a row without ambiguous names collects is in its place. -/
theorem places_of_collects {record : Record} (distinct : (columns.map Prod.fst).Nodup)
    (collects : Collects record columns) : Places columns record := by
  have found {column : String × Json} (member : column ∈ columns) {join field : String}
      (split : splitAlias column.1 = some (join, field)) :
      record.find? join = some (Nesting.settle (.object (joinEntries columns join))) := by
    obtain ⟨entry, given, held⟩ := collects.entries join
    have inside := mem_columnsOf.2 ⟨member, entryName_of_joined split⟩
    rw [Entry.ofColumns?_of_joined (List.ne_nil_of_mem inside)
      (fun other => splitAlias_of_mem_columnsOf clear member split)
      (distinct.sublist (List.filter_sublist.map _)), joinEntries_columnsOf] at given
    obtain rfl := Option.some.inj given
    exact held
  refine ⟨collects.keys, ?_, ?_, ?_⟩
  · intro column member own
    obtain ⟨entry, given, held⟩ := collects.entries column.1
    rw [columnsOf_own clear distinct member own] at given
    have fresh : Entry.vacant.IsUnjoined := trivial
    have single : Entry.ofColumns? [column] = some (.own column.2) := by
      rw [Entry.ofColumns?, List.foldlM_cons, Entry.add_of_own own fresh]
      rfl
    obtain rfl := Option.some.inj (single.symm.trans given)
    exact held
  · intro column member join field split nulls
    rw [found member split, Nesting.settle, if_pos]
    exact List.all_eq_true.2 fun entry inside => Json.isNull_iff.2 (nulls entry inside)
  · rintro column member join field split ⟨entry, inside, matched⟩
    rw [found member split, Nesting.settle, if_neg]
    exact fun nulls => matched (Json.isNull_iff.1 (List.all_eq_true.1 nulls entry inside))

end Clear

/-- Values beyond the last alias are not looked at. -/
theorem zip_take_append (enough : aliases.length ≤ values.length) (surplus : List Json) :
    aliases.zip (values.take aliases.length ++ surplus) = aliases.zip values := by
  induction aliases generalizing values with
  | nil => rfl
  | cons columnAlias rest ih =>
      cases values with
      | nil => exact nomatch enough
      | cons value others => exact congrArg (List.cons _) (ih (Nat.le_of_succ_le_succ enough))

/-- A row with distinct aliases, none of them ambiguous, is read whatever its values are; every
column has its place in the record, and values beyond the last alias are left out. -/
theorem unzip_places (distinct : aliases.Nodup) (clear : ∀ name, ¬IsAmbiguous aliases name)
    (enough : aliases.length ≤ values.length) :
    ∃ record, (Row.positional values).unzip aliases = .ok record ∧
      Places (aliases.zip values) record ∧
      ∀ surplus, (Row.positional (values.take aliases.length ++ surplus)).unzip aliases =
        .ok record := by
  have names : (aliases.zip values).map Prod.fst = aliases := List.map_fst_zip enough
  cases unzipped : (Row.positional values).unzip aliases with
  | error error =>
      obtain ⟨columnAlias, -, ambiguous, -⟩ := exists_isAmbiguous_of_error enough unzipped
      exact absurd ambiguous (clear _)
  | ok record =>
      refine ⟨record, rfl, ?_, fun surplus => ?_⟩
      · refine places_of_collects ?_ ?_ (collects_of_unzip enough unzipped)
        · rwa [names]
        · rwa [names]
      · have more : aliases.length ≤ (values.take aliases.length ++ surplus).length := by
          rw [List.length_append, List.length_take, Nat.min_eq_left enough]
          exact Nat.le_add_right ..
        rw [unzip_positional more, zip_take_append enough, ← unzip_positional enough, unzipped]

/-- Two joins whose columns take turns, one of them unmatched, and a column with an object. -/
theorem unzip_places_of_joins :
    let aliases := ["note", "image.id", "author.id", "image.path", "author.name"]
    let values := [.object [("a", .null)], .integer 1, .null, .string "p", .null, .integer 2]
    (Row.positional values).unzip aliases =
        .ok [("note", .object [("a", .null)]),
          ("image", .object [("id", .integer 1), ("path", .string "p")]), ("author", .null)] ∧
      ∃ record, (Row.positional values).unzip aliases = .ok record ∧
        Places (aliases.zip values) record := by
  intro aliases values
  have apart : ∀ name ∈ aliases, IsOwn name → ∀ columnAlias ∈ aliases,
      (splitAlias columnAlias).map Prod.fst ≠ some name := by decide +kernel
  have clear (name : String) : ¬IsAmbiguous aliases name := by
    rintro ⟨plain, own, columnAlias, joined, field, split⟩
    exact apart name own plain columnAlias joined (by rw [split]; rfl)
  obtain ⟨record, unzipped, places, -⟩ :=
    @unzip_places aliases values (by decide) clear (by decide)
  exact ⟨rfl, record, unzipped, places⟩

end Row

end EntityQuery

import EntityQuery.Proofs.Row.Lookup
import EntityQuery.Proofs.Statement.Aliases
import EntityQuery.Row
import Mathlib.Data.List.TakeDrop
import Mathlib.Data.List.TakeWhile

/-!
# Nesting of joined columns

The alias of a joined column is taken apart at its first dot.  What stands before that dot is the
name of the join as long as this name has no dot of its own; the columns of one join then follow
each other into one object, which stands after the columns of the plan and of the joins before.
-/

namespace EntityQuery

namespace Record

variable {record : Record} {key other : String} {value held : Json}

theorem insert_of_absent (absent : key ∉ record.keys) :
    record.insert key value = record ++ [(key, value)] := by
  induction record with
  | nil => rfl
  | cons entry rest ih =>
      have distinct : entry.1 ≠ key := fun same => absent (same ▸ List.mem_cons_self)
      have later : key ∉ Record.keys rest := fun member => absent (List.mem_cons_of_mem _ member)
      rw [insert, if_neg distinct, ih later, List.cons_append]

/-- The last entry is replaced in its place. -/
theorem insert_append_last (absent : key ∉ record.keys) :
    Record.insert (record ++ [(key, held)]) key value = record ++ [(key, value)] := by
  induction record with
  | nil => rw [List.nil_append, insert, if_pos rfl, List.nil_append]
  | cons entry rest ih =>
      have distinct : entry.1 ≠ key := fun same => absent (same ▸ List.mem_cons_self)
      have later : key ∉ Record.keys rest := fun member => absent (List.mem_cons_of_mem _ member)
      rw [List.cons_append, insert, if_neg distinct, ih later, List.cons_append]

theorem mem_keys_insert : other ∈ (record.insert key value).keys ↔
    other = key ∨ other ∈ record.keys := by
  induction record with
  | nil => simp [insert, keys]
  | cons entry rest ih =>
      unfold keys at ih ⊢
      rw [insert]
      split_ifs with same
      · simp [same]
      · rw [List.map_cons, List.map_cons, List.mem_cons, List.mem_cons, ih]
        exact or_left_comm

end Record

namespace Text

variable {mark : Char} {text before after : String}

theorem splitFirst?_of_append (first : mark ∉ before.toList)
    (spelled : text.toList = before.toList ++ mark :: after.toList) :
    splitFirst? mark text = some (before, after) := by
  have kept : ∀ char ∈ before.toList, (char != mark) = true := by
    intro char member
    exact bne_iff_ne.2 fun same => first (same ▸ member)
  unfold splitFirst?
  rw [spelled, List.span_eq_takeWhile_dropWhile, List.takeWhile_append_of_pos kept,
    List.dropWhile_append_of_pos kept]
  simp

theorem splitFirst?_of_absent (absent : mark ∉ text.toList) : splitFirst? mark text = none := by
  have kept : ∀ char ∈ text.toList, (char != mark) = true := by
    intro char member
    exact bne_iff_ne.2 fun same => absent (same ▸ member)
  unfold splitFirst?
  rw [List.span_eq_takeWhile_dropWhile, List.dropWhile_eq_nil_iff.2 kept]

/-- A text is split at the first mark, so that none is left before it, unless it has no mark. -/
theorem splitFirst?_cases (mark : Char) (text : String) :
    mark ∉ text.toList ∧ splitFirst? mark text = none ∨
      ∃ before after, mark ∉ before.toList ∧ splitFirst? mark text = some (before, after) := by
  by_cases member : mark ∈ text.toList
  · obtain ⟨before, after, spelled, first⟩ := List.eq_append_cons_of_mem member
    refine .inr ⟨.ofList before, .ofList after, ?_, ?_⟩
    · rwa [String.toList_ofList]
    · refine splitFirst?_of_append ?_ ?_
      · rwa [String.toList_ofList]
      · rw [spelled, String.toList_ofList, String.toList_ofList]
  · exact .inl ⟨member, splitFirst?_of_absent member⟩

end Text

namespace Row

/-- The name of a join is read back as long as it has no dot of its own. -/
theorem splitAlias_joined {join : String} (plain : '.' ∉ join.toList) (name : String) :
    splitAlias (join ++ "." ++ name) = some (join, name) := by
  refine Text.splitFirst?_of_append plain ?_
  simp [String.toList_append]

theorem unzip_positional {aliases : List String} {values : List Json}
    (enough : aliases.length ≤ values.length) :
    (Row.positional values).unzip aliases = do
      let nesting ← (aliases.zip values).foldlM Nesting.add .empty
      return nesting.finish := by
  have held : (Row.positional values).values aliases = .ok values := by
    rw [Row.values, List.getElem?_eq_none enough]
  unfold unzip
  rw [held]
  rfl

namespace Nesting

/-- Where a value is added, every name that the record has gained is without a dot. -/
theorem plain_of_add {nesting next : Nesting} {column : String × Json} {key : String}
    (added : nesting.add column = .ok next) (member : key ∈ next.record.keys) :
    '.' ∉ key.toList ∨ key ∈ nesting.record.keys := by
  have inserted : ∃ place value, next.record = nesting.record.insert place value ∧
      '.' ∉ place.toList := by
    unfold add at added
    obtain ⟨plain, split⟩ | ⟨join, name, plain, split⟩ := Text.splitFirst?_cases '.' column.1
    · rw [splitAlias, split] at added
      dsimp only at added
      split_ifs at added
      exact ⟨_, _, (congrArg record (Except.ok.inj added)).symm, plain⟩
    · rw [splitAlias, split] at added
      dsimp only at added
      unfold addJoined at added
      split at added
      · exact ⟨_, _, (congrArg record (Except.ok.inj added)).symm, plain⟩
      · exact ⟨_, _, (congrArg record (Except.ok.inj added)).symm, plain⟩
      · exact nomatch added
  obtain ⟨place, value, grown, plain⟩ := inserted
  rw [grown] at member
  rcases Record.mem_keys_insert.1 member with rfl | present
  · exact .inl plain
  · exact .inr present

theorem plain_of_foldlM {nesting last : Nesting} {columns : List (String × Json)}
    (added : columns.foldlM add nesting = .ok last) {key : String}
    (member : key ∈ last.record.keys) : '.' ∉ key.toList ∨ key ∈ nesting.record.keys := by
  induction columns generalizing nesting with
  | nil =>
      obtain rfl := Outcome.pure_eq_ok.1 added
      exact .inr member
  | cons column rest ih =>
      obtain ⟨next, first, more⟩ := Outcome.bind_eq_ok.1 added
      rcases ih more with plain | present
      · exact .inl plain
      · exact plain_of_add first present

@[simp]
theorem keys_finish (nesting : Nesting) : nesting.finish.keys = nesting.record.keys := by
  unfold finish Record.keys
  rw [List.map_map]
  congr 1
  funext entry
  dsimp only [Function.comp]
  split_ifs <;> rfl

variable {record : Record} {joins : List String} {join : String}

theorem add_own {columnAlias : String} (plain : '.' ∉ columnAlias.toList)
    (fresh : columnAlias ∉ record.keys) (value : Json) :
    add ⟨record, []⟩ (columnAlias, value) = .ok ⟨record ++ [(columnAlias, value)], []⟩ := by
  unfold add
  rw [splitAlias, Text.splitFirst?_of_absent plain]
  dsimp only
  rw [if_neg (by simp), Record.insert_of_absent fresh]

/-- The first column of a join opens its object. -/
theorem add_joined_first (plain : '.' ∉ join.toList) (fresh : join ∉ record.keys)
    (unmet : join ∉ joins) (name : String) (value : Json) :
    add ⟨record, joins⟩ (join ++ "." ++ name, value) =
      .ok ⟨record ++ [(join, .object [(name, value)])], joins ++ [join]⟩ := by
  unfold add
  rw [splitAlias_joined plain]
  dsimp only
  unfold addJoined
  rw [Record.find?_of_absent fresh]
  dsimp only [meet]
  rw [Record.insert_of_absent fresh, if_neg (by simpa using unmet)]
  rfl

/-- A further column of the join that was met last goes into its object. -/
theorem add_joined_next {entries : Record} {name : String} (plain : '.' ∉ join.toList)
    (fresh : join ∉ record.keys) (freshName : name ∉ entries.keys) (value : Json) :
    add ⟨record ++ [(join, .object entries)], joins ++ [join]⟩ (join ++ "." ++ name, value) =
      .ok ⟨record ++ [(join, .object (entries ++ [(name, value)]))], joins ++ [join]⟩ := by
  have found : Record.find? (record ++ [(join, .object entries)]) join =
      some (.object entries) := by
    rw [Record.find?_append_of_absent fresh]
    simp [Record.find?]
  unfold add
  rw [splitAlias_joined plain]
  dsimp only
  unfold addJoined
  rw [found]
  dsimp only [meet]
  rw [Record.insert_append_last fresh, Record.insert_of_absent freshName, if_pos (by simp)]

theorem foldlM_own {names : List String} (plain : ∀ name ∈ names, '.' ∉ name.toList)
    (distinct : (record.keys ++ names).Nodup) (values : List Json) :
    (names.zip values).foldlM add ⟨record, []⟩ = .ok ⟨record ++ names.zip values, []⟩ := by
  induction names generalizing record values with
  | nil => simp [pure, Except.pure]
  | cons name rest ih =>
      cases values with
      | nil => simp [pure, Except.pure]
      | cons value others =>
          have fresh : name ∉ record.keys := fun member =>
            (List.nodup_append.1 distinct).2.2 name member name List.mem_cons_self rfl
          have grown : (Record.keys (record ++ [(name, value)]) ++ rest).Nodup := by
            simpa [Record.keys] using distinct
          have later : ∀ name ∈ rest, '.' ∉ name.toList := fun name member =>
            plain name (List.mem_cons_of_mem _ member)
          rw [List.zip_cons_cons, List.foldlM_cons, add_own (plain name List.mem_cons_self) fresh]
          refine (ih later grown others).trans ?_
          rw [List.append_assoc, List.singleton_append]

theorem foldlM_joined_rest {names : List String} {entries : Record} (plain : '.' ∉ join.toList)
    (fresh : join ∉ record.keys) (distinct : (entries.keys ++ names).Nodup) (values : List Json) :
    ((names.map fun name => join ++ "." ++ name).zip values).foldlM add
        ⟨record ++ [(join, .object entries)], joins ++ [join]⟩ =
      .ok ⟨record ++ [(join, .object (entries ++ names.zip values))], joins ++ [join]⟩ := by
  induction names generalizing entries values with
  | nil => simp [pure, Except.pure]
  | cons name rest ih =>
      cases values with
      | nil => simp [pure, Except.pure]
      | cons value others =>
          have freshName : name ∉ entries.keys := fun member =>
            (List.nodup_append.1 distinct).2.2 name member name List.mem_cons_self rfl
          have grown : (Record.keys (entries ++ [(name, value)]) ++ rest).Nodup := by
            simpa [Record.keys] using distinct
          rw [List.map_cons, List.zip_cons_cons, List.foldlM_cons,
            add_joined_next plain fresh freshName]
          refine (ih grown others).trans ?_
          rw [List.append_assoc, List.singleton_append, List.zip_cons_cons]

/-- A join that selects a column gets one object, at the end of the record. -/
theorem foldlM_joined {names : List String} {values : List Json} (plain : '.' ∉ join.toList)
    (fresh : join ∉ record.keys) (unmet : join ∉ joins) (distinct : names.Nodup)
    (selecting : names ≠ []) (full : values.length = names.length) :
    ((names.map fun name => join ++ "." ++ name).zip values).foldlM add ⟨record, joins⟩ =
      .ok ⟨record ++ [(join, .object (names.zip values))], joins ++ [join]⟩ := by
  match names, values, selecting, full with
  | name :: rest, value :: others, _, _ =>
      rw [List.map_cons, List.zip_cons_cons, List.foldlM_cons,
        add_joined_first plain fresh unmet]
      refine (foldlM_joined_rest plain fresh ?_ others).trans ?_
      · simpa [Record.keys] using distinct
      · rw [List.singleton_append, List.zip_cons_cons]

end Nesting

end Row

namespace Join

/-- The names that the columns of a join have inside it. -/
def fieldNames (join : Join) : List String := join.plan.columns.map Column.name

/-- The joins of a list, each with its share of the values, which follow each other. -/
def shares : List Join → List Json → List (Join × List Json)
  | [], _ => []
  | join :: rest, values =>
      (join, values.take join.fieldNames.length) ::
        shares rest (values.drop join.fieldNames.length)

/-- What a record holds of a join: its values under their names, or null for nothing but nulls. -/
def nested (join : Join) (values : List Json) : Json :=
  if values.all Json.isNull then .null else .object (join.fieldNames.zip values)

theorem aliases_eq (join : Join) :
    join.aliases = join.fieldNames.map fun name => join.shownName ++ "." ++ name := by
  unfold aliases fieldNames
  rw [List.map_map]
  rfl

theorem fieldNames_nodup {join : Join} (distinct : join.aliases.Nodup) :
    join.fieldNames.Nodup := by
  rw [aliases_eq] at distinct
  exact List.Pairwise.of_map _ (fun _ _ differ same => differ (congrArg _ same)) distinct

@[simp]
theorem map_fst_shares (joins : List Join) (values : List Json) :
    (shares joins values).map Prod.fst = joins := by
  induction joins generalizing values with
  | nil => rfl
  | cons join rest ih => rw [shares, List.map_cons, ih]

theorem map_shownName_shares (joins : List Join) (values : List Json) :
    (shares joins values).map (fun share => share.1.shownName) = joins.map shownName := by
  conv_rhs => rw [← map_fst_shares joins values, List.map_map]
  rfl

@[simp]
theorem length_aliases (join : Join) : join.aliases.length = join.fieldNames.length := by
  rw [aliases_eq, List.length_map]

/-- With a value for each alias, each share has a value for each name inside its join. -/
theorem length_of_shares {joins : List Join} {values : List Json}
    (full : values.length = (joins.flatMap Join.aliases).length) :
    ∀ share ∈ shares joins values, share.2.length = share.1.fieldNames.length := by
  induction joins generalizing values with
  | nil => simp [shares]
  | cons join rest ih =>
      rw [List.flatMap_cons, List.length_append, length_aliases] at full
      intro share member
      rcases List.mem_cons.1 member with rfl | later
      · dsimp only
        rw [List.length_take]
        omega
      · exact ih (by rw [List.length_drop]; omega) share later

/-- An object of nothing but nulls is settled to null. -/
theorem settle_eq_nested {join : Join} {values : List Json}
    (full : values.length = join.fieldNames.length) :
    Row.Nesting.settle (.object (join.fieldNames.zip values)) = join.nested values := by
  have values' : (join.fieldNames.zip values).map Prod.snd = values :=
    List.map_snd_zip full.le
  have nulls : (join.fieldNames.zip values).all (fun entry => entry.2.isNull) =
      values.all Json.isNull := by
    conv_rhs => rw [← values', List.all_map]
    rfl
  rw [Row.Nesting.settle, nulls, nested]

end Join

namespace Row.Nesting

/-- Joins that select columns get one object each, one after the other. -/
theorem foldlM_joins {joins : List Join} {record : Record} {met : List String}
    {values : List Json} (plain : ∀ join ∈ joins, '.' ∉ join.shownName.toList)
    (selecting : ∀ join ∈ joins, join.fieldNames ≠ [])
    (named : (record.keys ++ joins.map Join.shownName).Nodup)
    (distinct : (joins.flatMap Join.aliases).Nodup) (within : met ⊆ record.keys)
    (full : values.length = (joins.flatMap Join.aliases).length) :
    ((joins.flatMap Join.aliases).zip values).foldlM add ⟨record, met⟩ =
      .ok ⟨record ++ (Join.shares joins values).map fun share =>
          (share.1.shownName, .object (share.1.fieldNames.zip share.2)),
        met ++ joins.map Join.shownName⟩ := by
  induction joins generalizing record met values with
  | nil => simp [Join.shares, pure, Except.pure]
  | cons join rest ih =>
      rw [List.flatMap_cons] at distinct full
      obtain ⟨own, others, -⟩ := List.nodup_append.1 distinct
      rw [List.length_append, Join.length_aliases] at full
      have enough : (values.take join.fieldNames.length).length = join.fieldNames.length := by
        rw [List.length_take]
        omega
      have fresh : join.shownName ∉ record.keys := fun member =>
        (List.nodup_append.1 named).2.2 _ member _ List.mem_cons_self rfl
      have opened := foldlM_joined (plain join List.mem_cons_self) fresh
        (fun member => fresh (within member)) (Join.fieldNames_nodup own)
        (selecting join List.mem_cons_self) enough
      -- The columns of this join come first, and the values are taken apart where they end.
      rw [List.flatMap_cons, ← List.take_append_drop join.fieldNames.length values,
        List.zip_append (by rw [Join.length_aliases, enough]), List.foldlM_append, Join.aliases_eq,
        opened]
      refine (ih ?_ ?_ ?_ others ?_ ?_).trans ?_
      · exact fun join member => plain join (List.mem_cons_of_mem _ member)
      · exact fun join member => selecting join (List.mem_cons_of_mem _ member)
      · simpa [Record.keys] using named
      · intro name member
        rw [Record.keys, List.map_append, List.mem_append]
        exact (List.mem_append.1 member).imp (@within name) id
      · rw [List.length_drop, full]
        omega
      · rw [Join.shares, List.take_append_drop]
        simp

/-- Objects of joins become null where they hold nothing else; other entries stay. -/
theorem finish_eq (own : Record) {shares : List (Join × List Json)} {joins : List String}
    (named : shares.map (fun share => share.1.shownName) = joins)
    (apart : ∀ entry ∈ own, entry.1 ∉ joins)
    (full : ∀ share ∈ shares, share.2.length = share.1.fieldNames.length) :
    finish ⟨own ++ shares.map fun share =>
        (share.1.shownName, .object (share.1.fieldNames.zip share.2)), joins⟩ =
      own ++ shares.map fun share => (share.1.shownName, share.1.nested share.2) := by
  unfold finish
  rw [List.map_append, List.map_map]
  congr 1
  · refine (List.map_congr_left fun entry member => ?_).trans (List.map_id _)
    rw [if_neg (by simpa using apart entry member)]
    rfl
  · refine List.map_congr_left fun share member => ?_
    have met : share.1.shownName ∈ joins := named ▸ List.mem_map.2 ⟨share, member, rfl⟩
    dsimp only [Function.comp]
    rw [if_pos (by simpa using met), Join.settle_eq_nested (full share member)]

end Row.Nesting

end EntityQuery

import EntityQuery.Proofs.Row.Nesting

/-!
# Rows name by name

The entries of a record are put together independently of each other: what stands under a name
depends only on the columns of that name, in their order.  These are the columns with the name as
their alias, and those of a join with that name.  So a row is read in as many small runs as there
are names, and it fails exactly if one of them does.
-/

namespace EntityQuery

open Outcome

theorem eraseDups_concat_of_mem {names : List String} {name : String} (present : name ∈ names) :
    (names ++ [name]).eraseDups = names.eraseDups := by
  rw [List.eraseDups_append]
  simp [List.removeAll, present]

theorem eraseDups_concat_of_absent {names : List String} {name : String} (absent : name ∉ names) :
    (names ++ [name]).eraseDups = names.eraseDups ++ [name] := by
  rw [List.eraseDups_append]
  simp [List.removeAll, absent, List.eraseDups_cons]

namespace Record

variable {record : Record} {key other : String} {value : Json}

theorem keys_insert_of_mem (present : key ∈ record.keys) :
    (record.insert key value).keys = record.keys := by
  induction record with
  | nil => exact nomatch present
  | cons entry rest ih =>
      unfold keys at ih present ⊢
      rw [insert]
      split_ifs with same
      · simp [same]
      · have later : key ∈ rest.map Prod.fst :=
          (List.mem_cons.1 present).resolve_left (Ne.symm same)
        rw [List.map_cons, List.map_cons, ih later]

theorem keys_insert_of_absent (absent : key ∉ record.keys) :
    (record.insert key value).keys = record.keys ++ [key] := by
  rw [insert_of_absent absent]
  simp [keys]

@[simp]
theorem find?_insert_self (record : Record) (key : String) (value : Json) :
    (record.insert key value).find? key = some value := by
  unfold find?
  induction record with
  | nil => simp [insert]
  | cons entry rest ih =>
      rw [insert]
      split_ifs with same
      · simp
      · rw [List.lookup_cons, beq_false_of_ne (Ne.symm same)]
        exact ih

theorem find?_insert_of_ne (different : other ≠ key) (record : Record) (value : Json) :
    (record.insert key value).find? other = record.find? other := by
  unfold find?
  induction record with
  | nil => simp [insert, List.lookup_cons, beq_false_of_ne different]
  | cons entry rest ih =>
      rw [insert]
      split_ifs with same
      · rw [List.lookup_cons, List.lookup_cons, same, beq_false_of_ne different]
      · rw [List.lookup_cons, List.lookup_cons, ih]

end Record

namespace Row

/-- The name of the entry that a column belongs to: that of its join, or else its alias. -/
def entryName (columnAlias : String) : String :=
  match splitAlias columnAlias with
  | some (join, _) => join
  | none => columnAlias

/-- The columns of a name, in their order. -/
def columnsOf (columns : List (String × Json)) (name : String) : List (String × Json) :=
  columns.filter fun column => entryName column.1 == name

/-- What the columns of one name have given so far. -/
inductive Entry
  | vacant
  | own (value : Json)
  | joined (entries : Record)

namespace Entry

/-- One more column of the name.  A join cannot go on with a value of its own, and it can only start
in an object. -/
def add (entry : Entry) (column : String × Json) : Option Entry :=
  match splitAlias column.1, entry with
  | none, .vacant | none, .own _ => some (.own column.2)
  | none, .joined _ => none
  | some (_, name), .vacant => some (.joined [(name, column.2)])
  | some (_, name), .joined entries | some (_, name), .own (.object entries) =>
      some (.joined (Record.insert entries name column.2))
  | some _, .own _ => none

/-- What the columns of one name give. -/
def ofColumns? (columns : List (String × Json)) : Option Entry := columns.foldlM add vacant

/-- The record and the joins that have been met have the entry under the name. -/
def IsIn (entry : Entry) (nesting : Nesting) (name : String) : Prop :=
  match entry with
  | .vacant => nesting.record.find? name = none ∧ name ∉ nesting.joins
  | .own value => nesting.record.find? name = some value ∧ name ∉ nesting.joins
  | .joined entries =>
      nesting.record.find? name = some (.object entries) ∧ name ∈ nesting.joins

/-- The entry in a record. -/
def value? : Entry → Option Json
  | .vacant => none
  | .own value => some value
  | .joined entries => some (Nesting.settle (.object entries))

theorem ofColumns?_concat (columns : List (String × Json)) (column : String × Json) :
    ofColumns? (columns ++ [column]) = (ofColumns? columns).bind (·.add column) := by
  unfold ofColumns?
  rw [List.foldlM_append]
  simp

theorem ofColumns?_append_of_none {columns : List (String × Json)}
    (failed : ofColumns? columns = none) (more : List (String × Json)) :
    ofColumns? (columns ++ more) = none := by
  unfold ofColumns? at failed ⊢
  rw [List.foldlM_append, failed]
  rfl

end Entry

theorem mem_columnsOf {columns : List (String × Json)} {column : String × Json} {name : String} :
    column ∈ columnsOf columns name ↔ column ∈ columns ∧ entryName column.1 = name := by
  simp [columnsOf]

theorem columnsOf_append (front back : List (String × Json)) (name : String) :
    columnsOf (front ++ back) name = columnsOf front name ++ columnsOf back name :=
  List.filter_append ..

theorem columnsOf_singleton_self (column : String × Json) :
    columnsOf [column] (entryName column.1) = [column] := by
  simp [columnsOf]

theorem columnsOf_singleton_of_ne {column : String × Json} {name : String}
    (different : entryName column.1 ≠ name) : columnsOf [column] name = [] := by
  simp [columnsOf, different]

namespace Nesting

/-- The nesting has an entry for each name of the columns, in order of first occurrence. -/
structure Holds (nesting : Nesting) (columns : List (String × Json)) : Prop where
  keys : nesting.record.keys = (columns.map fun column => entryName column.1).eraseDups
  entries : ∀ name, ∃ entry, Entry.ofColumns? (columnsOf columns name) = some entry ∧
    entry.IsIn nesting name

theorem holds_empty : empty.Holds [] where
  keys := rfl
  entries _ := ⟨.vacant, rfl, rfl, List.not_mem_nil⟩

variable {nesting next : Nesting} {columns : List (String × Json)} {column : String × Json}

theorem mem_meet {join name : String} : name ∈ nesting.meet join ↔
    name = join ∨ name ∈ nesting.joins := by
  unfold meet
  split_ifs with met
  · exact ⟨.inr, fun either => either.elim (fun same => same ▸ by simpa using met) id⟩
  · rw [List.mem_append, List.mem_singleton, or_comm]

/-- A column is refused exactly if the entry of its name does not take it. -/
theorem add_eq_error {entry : Entry} (held : entry.IsIn nesting (entryName column.1))
    (refused : entry.add column = none) :
    nesting.add column = .error (.decode column.1 (.joinConflict (entryName column.1))) := by
  unfold Entry.add at refused
  unfold entryName at held ⊢
  unfold add
  cases split : splitAlias column.1 with
  | none =>
      rw [split] at refused held
      cases entry with
      | vacant | own _ => exact nomatch refused
      | joined entries =>
          dsimp only
          rw [if_pos (by simpa using held.2)]
  | some parts =>
      rw [split] at refused held
      cases entry with
      | vacant | joined _ => exact nomatch refused
      | own present =>
          cases present with
          | object entries => exact nomatch refused
          | _ => simp only [addJoined, held.1]

/-- Adding a column changes the entry of its name alone. -/
theorem exists_add {entry grown : Entry} (held : entry.IsIn nesting (entryName column.1))
    (taken : entry.add column = some grown) :
    ∃ value joins, nesting.add column =
        .ok ⟨nesting.record.insert (entryName column.1) value, joins⟩ ∧
      grown.IsIn ⟨nesting.record.insert (entryName column.1) value, joins⟩ (entryName column.1) ∧
      ∀ name, name ≠ entryName column.1 → (name ∈ joins ↔ name ∈ nesting.joins) := by
  unfold Entry.add at taken
  unfold entryName at held ⊢
  unfold add
  cases split : splitAlias column.1 with
  | none =>
      rw [split] at taken held
      cases entry with
      | vacant | own _ =>
          obtain rfl := Option.some.inj taken
          dsimp only
          rw [if_neg (by simpa using held.2)]
          exact ⟨column.2, nesting.joins, rfl, ⟨Record.find?_insert_self .., held.2⟩,
            fun _ _ => Iff.rfl⟩
      | joined entries => exact nomatch taken
  | some parts =>
      obtain ⟨join, field⟩ := parts
      rw [split] at taken held
      have opened (entries : Record) :
          (Entry.joined (entries.insert field column.2)).IsIn
              ⟨nesting.record.insert join (.object (entries.insert field column.2)),
                nesting.meet join⟩ join ∧
            ∀ name, name ≠ join → (name ∈ nesting.meet join ↔ name ∈ nesting.joins) :=
        ⟨⟨Record.find?_insert_self .., mem_meet.2 (.inl rfl)⟩, fun name different => by
          rw [mem_meet, or_iff_right different]⟩
      cases entry with
      | vacant =>
          obtain rfl := Option.some.inj taken
          simp only [addJoined, held.1]
          exact ⟨_, _, rfl, opened []⟩
      | joined entries =>
          obtain rfl := Option.some.inj taken
          simp only [addJoined, held.1]
          exact ⟨_, _, rfl, opened entries⟩
      | own present =>
          cases present with
          | object entries =>
              obtain rfl := Option.some.inj taken
              simp only [addJoined, held.1]
              exact ⟨_, _, rfl, opened entries⟩
          | _ => exact nomatch taken

/-- One more column is added to what there is for the others, unless its name refuses it. -/
theorem holds_add (holds : nesting.Holds columns) (added : nesting.add column = .ok next) :
    next.Holds (columns ++ [column]) := by
  obtain ⟨entry, given, held⟩ := holds.entries (entryName column.1)
  cases taken : entry.add column with
  | none => exact nomatch (add_eq_error held taken).symm.trans added
  | some grown =>
      obtain ⟨value, joins, same, grownHeld, others⟩ := exists_add held taken
      obtain rfl := Except.ok.inj (same.symm.trans added)
      constructor
      · rw [List.map_append, List.map_singleton]
        have present : entryName column.1 ∈ nesting.record.keys ↔
            entryName column.1 ∈ columns.map fun column => entryName column.1 := by
          rw [holds.keys, List.mem_eraseDups]
        by_cases member : entryName column.1 ∈ nesting.record.keys
        · rw [eraseDups_concat_of_mem (present.1 member), ← holds.keys]
          exact Record.keys_insert_of_mem member
        · rw [eraseDups_concat_of_absent fun inside => member (present.2 inside), ← holds.keys]
          exact Record.keys_insert_of_absent member
      · intro name
        rw [columnsOf_append]
        by_cases same : entryName column.1 = name
        · subst same
          refine ⟨grown, ?_, grownHeld⟩
          rw [columnsOf_singleton_self, Entry.ofColumns?_concat, given]
          exact taken
        · obtain ⟨other, otherGiven, otherHeld⟩ := holds.entries name
          refine ⟨other, ?_, ?_⟩
          · rwa [columnsOf_singleton_of_ne same, List.append_nil]
          · have found := Record.find?_insert_of_ne (Ne.symm same) nesting.record value
            have met := others name (Ne.symm same)
            cases other with
            | vacant => exact ⟨found.trans otherHeld.1, met.not.2 otherHeld.2⟩
            | own _ => exact ⟨found.trans otherHeld.1, met.not.2 otherHeld.2⟩
            | joined _ => exact ⟨found.trans otherHeld.1, met.2 otherHeld.2⟩

/-- A column that is not added leaves its name without an entry. -/
theorem ofColumns?_of_add_error {error : Error} (holds : nesting.Holds columns)
    (refused : nesting.add column = .error error) :
    Entry.ofColumns? (columnsOf (columns ++ [column]) (entryName column.1)) = none ∧
      error = .decode column.1 (.joinConflict (entryName column.1)) := by
  obtain ⟨entry, given, held⟩ := holds.entries (entryName column.1)
  rw [columnsOf_append, columnsOf_singleton_self, Entry.ofColumns?_concat, given]
  cases taken : entry.add column with
  | none => exact ⟨taken, Except.error.inj (refused.symm.trans (add_eq_error held taken))⟩
  | some grown =>
      obtain ⟨_, _, same, -, -⟩ := exists_add held taken
      exact nomatch refused.symm.trans same

/-- A run over all columns has the entries of all names, if there are such. -/
theorem holds_of_foldlM {before : List (String × Json)} (holds : nesting.Holds before)
    (added : columns.foldlM add nesting = .ok next) : next.Holds (before ++ columns) := by
  induction columns generalizing nesting before with
  | nil =>
      obtain rfl := pure_eq_ok.1 added
      rwa [List.append_nil]
  | cons column rest ih =>
      obtain ⟨second, first, more⟩ := bind_eq_ok.1 added
      rw [← List.singleton_append, ← List.append_assoc]
      exact ih (holds_add holds first) more

/-- A run that fails has met a name without an entry. -/
theorem ofColumns?_of_foldlM_error {before : List (String × Json)} {error : Error}
    (holds : nesting.Holds before) (failed : columns.foldlM add nesting = .error error) :
    ∃ column ∈ columns,
      Entry.ofColumns? (columnsOf (before ++ columns) (entryName column.1)) = none ∧
      error = .decode column.1 (.joinConflict (entryName column.1)) := by
  induction columns generalizing nesting before with
  | nil => exact nomatch failed
  | cons column rest ih =>
      rw [List.foldlM_cons] at failed
      have whole : before ++ column :: rest = before ++ [column] ++ rest := by simp
      rw [whole]
      cases first : nesting.add column with
      | ok second =>
          rw [first] at failed
          obtain ⟨other, member, refused, same⟩ := ih (holds_add holds first) failed
          exact ⟨other, List.mem_cons_of_mem _ member, refused, same⟩
      | error fault =>
          rw [first] at failed
          obtain rfl := Except.error.inj failed
          obtain ⟨refused, same⟩ := ofColumns?_of_add_error holds first
          refine ⟨column, List.mem_cons_self, ?_, same⟩
          rw [columnsOf_append]
          exact Entry.ofColumns?_append_of_none refused _

/-- What a finished nesting has under a name is the value of its entry. -/
theorem find?_finish (nesting : Nesting) (name : String) :
    nesting.finish.find? name = (nesting.record.find? name).map fun value =>
      if nesting.joins.contains name then settle value else value := by
  obtain ⟨record, joins⟩ := nesting
  unfold finish Record.find?
  dsimp only
  induction record with
  | nil => rfl
  | cons entry rest ih =>
      rw [List.map_cons, List.lookup_cons, List.lookup_cons]
      by_cases same : name = entry.1
      · subst same
        split_ifs <;> simp
      · have kept : (if joins.contains entry.1 then (entry.1, settle entry.2) else entry).1 =
            entry.1 := by
          split_ifs <;> rfl
        rw [kept, beq_false_of_ne same]
        exact ih

end Nesting

theorem Entry.IsIn.find?_finish {entry : Entry} {nesting : Nesting} {name : String}
    (held : entry.IsIn nesting name) : nesting.finish.find? name = entry.value? := by
  rw [Nesting.find?_finish]
  cases entry with
  | vacant => rw [held.1, Option.map_none, value?]
  | own value => rw [held.1, Option.map_some, if_neg (by simpa using held.2), value?]
  | joined entries => rw [held.1, Option.map_some, if_pos (by simpa using held.2), value?]

/-- The record has an entry for each name of the columns, in order of first occurrence. -/
structure Collects (record : Record) (columns : List (String × Json)) : Prop where
  keys : record.keys = (columns.map fun column => entryName column.1).eraseDups
  entries : ∀ name, ∃ entry, Entry.ofColumns? (columnsOf columns name) = some entry ∧
    record.find? name = entry.value?

variable {values : List Json} {aliases : List String}

/-- A row that is read has the entries of all its names. -/
theorem collects_of_unzip {record : Record} (enough : aliases.length ≤ values.length)
    (unzipped : (Row.positional values).unzip aliases = .ok record) :
    Collects record (aliases.zip values) := by
  rw [unzip_positional enough] at unzipped
  obtain ⟨nesting, added, finished⟩ := bind_eq_ok.1 unzipped
  obtain rfl := pure_eq_ok.1 finished
  have holds := Nesting.holds_of_foldlM Nesting.holds_empty added
  refine ⟨(Nesting.keys_finish nesting).trans holds.keys, fun name => ?_⟩
  obtain ⟨entry, given, held⟩ := holds.entries name
  exact ⟨entry, given, held.find?_finish⟩

/-- A row that cannot be read has a column whose name has no entry. -/
theorem ofColumns?_of_unzip_error {error : Error} (enough : aliases.length ≤ values.length)
    (failed : (Row.positional values).unzip aliases = .error error) :
    ∃ columnAlias ∈ aliases,
      Entry.ofColumns? (columnsOf (aliases.zip values) (entryName columnAlias)) = none ∧
      error = .decode columnAlias (.joinConflict (entryName columnAlias)) := by
  rw [unzip_positional enough] at failed
  cases added : (aliases.zip values).foldlM Nesting.add .empty with
  | ok nesting => exact nomatch added ▸ failed
  | error fault =>
      obtain rfl : fault = error := Except.error.inj (added ▸ failed)
      obtain ⟨column, member, refused⟩ :=
        Nesting.ofColumns?_of_foldlM_error Nesting.holds_empty added
      exact ⟨column.1, (List.of_mem_zip member).1, refused⟩

/-- A row is read exactly if each name has an entry. -/
theorem unzip_fails_iff_none (enough : aliases.length ≤ values.length) :
    (∃ error, (Row.positional values).unzip aliases = .error error) ↔
      ∃ name, Entry.ofColumns? (columnsOf (aliases.zip values) name) = none := by
  constructor
  · rintro ⟨error, failed⟩
    obtain ⟨columnAlias, -, refused, -⟩ := ofColumns?_of_unzip_error enough failed
    exact ⟨_, refused⟩
  · rintro ⟨name, refused⟩
    cases unzipped : (Row.positional values).unzip aliases with
    | error error => exact ⟨error, rfl⟩
    | ok record =>
        obtain ⟨entry, given, -⟩ := (collects_of_unzip enough unzipped).entries name
        exact nomatch refused.symm.trans given

end Row

end EntityQuery

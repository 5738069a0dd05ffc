import EntityQuery.Proofs.Row.Columns
import Mathlib.Data.List.Induction

/-!
# Ambiguous names of columns

A name is ambiguous if it is both the alias of a column and the name of a join.  A row over such
columns is refused, unless the columns of the name itself come first and the last of them holds an
object: then the columns of the join go into that object.
-/

namespace EntityQuery.Row

/-- The alias has no dot, so that the column stands under it as it is. -/
def IsOwn (columnAlias : String) : Prop := splitAlias columnAlias = none

instance (columnAlias : String) : Decidable (IsOwn columnAlias) :=
  inferInstanceAs (Decidable (splitAlias columnAlias = none))

/-- The name is the alias of a column and the name of a join. -/
structure IsAmbiguous (aliases : List String) (name : String) : Prop where
  plain : IsOwn name
  own : name ∈ aliases
  joined : ∃ columnAlias ∈ aliases, ∃ field, splitAlias columnAlias = some (name, field)

/-- Columns with values of their own come first, the last of them holds an object, and all others
are those of a join. -/
def Overlays (columns : List (String × Json)) : Prop :=
  ∃ own columnAlias entries joined, columns = own ++ (columnAlias, .object entries) :: joined ∧
    (∀ column ∈ own, IsOwn column.1) ∧ IsOwn columnAlias ∧ ∀ column ∈ joined, ¬IsOwn column.1

theorem entryName_of_own {columnAlias : String} (own : IsOwn columnAlias) :
    entryName columnAlias = columnAlias := by
  unfold IsOwn at own
  rw [entryName, own]

theorem entryName_of_joined {columnAlias join field : String}
    (split : splitAlias columnAlias = some (join, field)) : entryName columnAlias = join := by
  rw [entryName, split]

theorem not_isOwn_iff {columnAlias : String} :
    ¬IsOwn columnAlias ↔ ∃ field, splitAlias columnAlias = some (entryName columnAlias, field) := by
  constructor
  · intro dotted
    obtain ⟨⟨join, field⟩, split⟩ := Option.ne_none_iff_exists'.1 dotted
    exact ⟨field, by rw [entryName_of_joined split, split]⟩
  · rintro ⟨field, split⟩ own
    exact nomatch own.symm.trans split

theorem isAmbiguous_of_mem {columns : List (String × Json)} {column dotted : String × Json}
    {field : String} (member : column ∈ columns) (own : IsOwn column.1) (found : dotted ∈ columns)
    (split : splitAlias dotted.1 = some (column.1, field)) :
    IsAmbiguous (columns.map Prod.fst) column.1 :=
  ⟨own, List.mem_map_of_mem member, dotted.1, List.mem_map_of_mem found, field, split⟩

namespace Entry

variable {columns : List (String × Json)} {column : String × Json} {entry grown : Entry}

/-- The columns of a name are of the kind of its entry. -/
def Suits (columns : List (String × Json)) : Entry → Prop
  | .vacant => columns = []
  | .own value => ∃ front columnAlias, columns = front ++ [(columnAlias, value)] ∧
      ∀ column ∈ columns, IsOwn column.1
  | .joined _ => columns ≠ [] ∧ (∀ column ∈ columns, ¬IsOwn column.1) ∨ Overlays columns

theorem suits_add (suits : entry.Suits columns) (taken : entry.add column = some grown) :
    grown.Suits (columns ++ [column]) := by
  unfold add at taken
  cases split : splitAlias column.1 with
  | none =>
      rw [split] at taken
      cases entry with
      | vacant =>
          obtain rfl := Option.some.inj taken
          obtain rfl := suits
          exact ⟨[], column.1, rfl, List.forall_mem_singleton.2 split⟩
      | own _ =>
          obtain rfl := Option.some.inj taken
          obtain ⟨-, -, -, own⟩ := suits
          exact ⟨columns, column.1, rfl,
            List.forall_mem_append.2 ⟨own, List.forall_mem_singleton.2 split⟩⟩
      | joined _ => exact nomatch taken
  | some parts =>
      have dotted : ¬IsOwn column.1 := fun own => nomatch own.symm.trans split
      rw [split] at taken
      cases entry with
      | vacant =>
          obtain rfl := Option.some.inj taken
          obtain rfl := suits
          exact .inl ⟨by simp, List.forall_mem_singleton.2 dotted⟩
      | joined _ =>
          obtain rfl := Option.some.inj taken
          obtain ⟨-, all⟩ | ⟨own, columnAlias, entries, joined, rfl, before, plain, after⟩ := suits
          · exact .inl ⟨by simp, List.forall_mem_append.2
              ⟨all, List.forall_mem_singleton.2 dotted⟩⟩
          · exact .inr ⟨own, columnAlias, entries, joined ++ [column], by simp, before, plain,
              List.forall_mem_append.2 ⟨after, List.forall_mem_singleton.2 dotted⟩⟩
      | own value =>
          cases value with
          | object entries =>
              obtain rfl := Option.some.inj taken
              obtain ⟨front, columnAlias, rfl, own⟩ := suits
              obtain ⟨before, last⟩ := List.forall_mem_append.1 own
              exact .inr ⟨front, columnAlias, entries, [column], by simp, before,
                last _ List.mem_cons_self, List.forall_mem_singleton.2 dotted⟩
          | _ => exact nomatch taken

theorem suits_of_ofColumns? (given : ofColumns? columns = some entry) : entry.Suits columns := by
  induction columns using List.reverseRecOn generalizing entry with
  | nil =>
      obtain rfl := Option.some.inj given
      rfl
  | append_singleton front column ih =>
      rw [ofColumns?_concat] at given
      obtain ⟨before, first, taken⟩ := Option.bind_eq_some_iff.1 given
      exact suits_add (ih first) taken

/-- The entry has no columns of a join yet. -/
def IsUnjoined : Entry → Prop
  | .joined _ => False
  | .vacant | .own _ => True

/-- The entry is open to the columns of a join. -/
def IsJoinable : Entry → Prop
  | .own value => ∃ entries, value = .object entries
  | .vacant | .joined _ => True

theorem add_of_own (own : IsOwn column.1) (unjoined : entry.IsUnjoined) :
    entry.add column = some (.own column.2) := by
  unfold IsOwn at own
  cases entry with
  | vacant | own _ => simp only [add, own]
  | joined _ => exact unjoined.elim

theorem exists_add_of_joined (dotted : ¬IsOwn column.1) (joinable : entry.IsJoinable) :
    ∃ entries, entry.add column = some (.joined entries) := by
  obtain ⟨field, split⟩ := not_isOwn_iff.1 dotted
  cases entry with
  | vacant => exact ⟨[(field, column.2)], by simp only [add, split]⟩
  | joined entries => exact ⟨entries.insert field column.2, by simp only [add, split]⟩
  | own value =>
      obtain ⟨entries, rfl⟩ := joinable
      exact ⟨Record.insert entries field column.2, by simp only [add, split]⟩

/-- Columns with values of their own follow each other. -/
theorem exists_foldlM_own (own : ∀ column ∈ columns, IsOwn column.1)
    (unjoined : entry.IsUnjoined) :
    ∃ grown, columns.foldlM add entry = some grown ∧ grown.IsUnjoined := by
  induction columns generalizing entry with
  | nil => exact ⟨entry, rfl, unjoined⟩
  | cons column rest ih =>
      obtain ⟨plain, others⟩ := List.forall_mem_cons.1 own
      rw [List.foldlM_cons, add_of_own plain unjoined]
      exact ih others trivial

/-- The columns of a join follow each other. -/
theorem exists_foldlM_joined (dotted : ∀ column ∈ columns, ¬IsOwn column.1)
    (joinable : entry.IsJoinable) : ∃ grown, columns.foldlM add entry = some grown := by
  induction columns generalizing entry with
  | nil => exact ⟨entry, rfl⟩
  | cons column rest ih =>
      obtain ⟨first, others⟩ := List.forall_mem_cons.1 dotted
      obtain ⟨entries, taken⟩ := exists_add_of_joined first joinable
      rw [List.foldlM_cons, taken]
      exact ih others trivial

/-- The columns of a name give an entry exactly if they are of one kind, or those of a join follow
an object. -/
theorem ofColumns?_ne_none_iff : ofColumns? columns ≠ none ↔
    (∀ column ∈ columns, IsOwn column.1) ∨ (∀ column ∈ columns, ¬IsOwn column.1) ∨
      Overlays columns := by
  rw [Option.ne_none_iff_exists']
  constructor
  · rintro ⟨entry, given⟩
    have suits := suits_of_ofColumns? given
    cases entry with
    | vacant =>
        obtain rfl := suits
        exact .inl (List.forall_mem_nil _)
    | own value =>
        obtain ⟨-, -, -, own⟩ := suits
        exact .inl own
    | joined _ => exact .inr (suits.imp_left And.right)
  · have fresh : vacant.IsUnjoined := trivial
    rintro (own | dotted | ⟨own, columnAlias, entries, joined, rfl, before, plain, after⟩)
    · obtain ⟨grown, given, -⟩ := exists_foldlM_own own fresh
      exact ⟨grown, given⟩
    · exact exists_foldlM_joined dotted trivial
    · obtain ⟨grown, first, unjoined⟩ := exists_foldlM_own before fresh
      have taken : grown.add (columnAlias, .object entries) = some (.own (.object entries)) :=
        add_of_own plain unjoined
      rw [ofColumns?, List.foldlM_append, first, Option.bind_eq_bind, Option.bind_some,
        List.foldlM_cons, taken]
      exact exists_foldlM_joined after ⟨entries, rfl⟩

end Entry

variable {values : List Json} {aliases : List String} {name : String}

/-- A name has no entry exactly if it is ambiguous and its columns do not go into an object. -/
theorem ofColumns?_eq_none_iff {columns : List (String × Json)} :
    Entry.ofColumns? (columnsOf columns name) = none ↔
      IsAmbiguous (columns.map Prod.fst) name ∧ ¬Overlays (columnsOf columns name) := by
  rw [← not_iff_not, ← ne_eq, Entry.ofColumns?_ne_none_iff, not_and_or, not_not, ← or_assoc]
  refine or_congr_left ?_
  constructor
  · rintro pure ⟨plain, own, other, joined, field, split⟩
    obtain ⟨column, member, rfl⟩ := List.mem_map.1 own
    obtain ⟨dotted, found, rfl⟩ := List.mem_map.1 joined
    have first := mem_columnsOf.2 ⟨member, entryName_of_own plain⟩
    have second := mem_columnsOf.2 ⟨found, entryName_of_joined split⟩
    rcases pure with own | joined
    · exact nomatch (own dotted second).symm.trans split
    · exact joined column first plain
  · intro clear
    by_contra mixed
    obtain ⟨⟨dotted, second, joined⟩, column, first, own⟩ :
        (∃ column ∈ columnsOf columns name, ¬IsOwn column.1) ∧
          ∃ column ∈ columnsOf columns name, IsOwn column.1 := by
      simpa using mixed
    obtain ⟨member, same⟩ := mem_columnsOf.1 first
    obtain ⟨found, rfl⟩ := mem_columnsOf.1 second
    obtain ⟨field, split⟩ := not_isOwn_iff.1 joined
    rw [entryName_of_own own] at same
    rw [← same] at split clear
    exact clear (isAmbiguous_of_mem member own found split)

/-- The column that a row is refused for has an ambiguous name. -/
theorem exists_isAmbiguous_of_error (enough : aliases.length ≤ values.length) {error : Error}
    (failed : (Row.positional values).unzip aliases = .error error) :
    ∃ columnAlias ∈ aliases, IsAmbiguous aliases (entryName columnAlias) ∧
      error = .decode columnAlias (.joinConflict (entryName columnAlias)) := by
  obtain ⟨columnAlias, member, refused, same⟩ := ofColumns?_of_unzip_error enough failed
  have ambiguous := (ofColumns?_eq_none_iff.1 refused).1
  rw [List.map_fst_zip enough] at ambiguous
  exact ⟨columnAlias, member, ambiguous, same⟩

/-- A row is refused exactly if a name of its columns is ambiguous and the columns of the join do
not go into an object that stands there before them; the error then names a column with such a
name. -/
theorem unzip_fails_iff_isAmbiguous (enough : aliases.length ≤ values.length) :
    ((∃ error, (Row.positional values).unzip aliases = .error error) ↔
      ∃ name, IsAmbiguous aliases name ∧ ¬Overlays (columnsOf (aliases.zip values) name)) ∧
    ∀ error, (Row.positional values).unzip aliases = .error error →
      ∃ columnAlias ∈ aliases, IsAmbiguous aliases (entryName columnAlias) ∧
        error = .decode columnAlias (.joinConflict (entryName columnAlias)) := by
  have names : (aliases.zip values).map Prod.fst = aliases := List.map_fst_zip enough
  constructor
  · rw [unzip_fails_iff_none enough]
    refine exists_congr fun name => ?_
    rw [ofColumns?_eq_none_iff, names]
  · exact fun error failed => exists_isAmbiguous_of_error enough failed

/-- An image cannot be both a text and an object with an identity. -/
theorem unzip_fails_of_image : ∃ error,
    (Row.positional [.string "x", .integer 10]).unzip ["image", "image.id"] = .error error := by
  refine (unzip_fails_iff_isAmbiguous (by decide)).1.2
    ⟨"image", ⟨by decide, by decide, "image.id", by decide, "id", by decide⟩, ?_⟩
  rintro ⟨own, columnAlias, entries, joined, same, -⟩
  have member : (columnAlias, Json.object entries) ∈
      columnsOf (["image", "image.id"].zip [.string "x", .integer 10]) "image" := by
    rw [same]
    exact List.mem_append_right _ List.mem_cons_self
  have object := List.mem_of_mem_filter member
  simp at object

/-- The identity of a joined image is put into the object of the column with that name. -/
theorem unzip_of_image : IsAmbiguous ["image", "image.id"] "image" ∧
    (Row.positional [.object [("a", .integer 1)], .integer 10]).unzip ["image", "image.id"] =
      .ok [("image", .object [("a", .integer 1), ("id", .integer 10)])] :=
  ⟨⟨by decide, by decide, "image.id", by decide, "id", by decide⟩, rfl⟩

end EntityQuery.Row

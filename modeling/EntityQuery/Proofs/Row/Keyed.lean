import EntityQuery.Proofs.Row.Lookup
import EntityQuery.Row
import Mathlib.Tactic.SplitIfs
import Std.Data.String.ToNat

/-!
# Rows by name

A connection may return the values of a row under the numbers of its columns, under their names, or
under some of both, in any order.  A column that is looked up is taken out of the row, and its
number goes before its name.  So numbers give the record that the values give by position, and names
do as well, unless two of them are the same or one would be taken for the number of a column.
-/

namespace EntityQuery

namespace Record

variable {record : Record} {key : String} {value : Json}

/-- An entry is what is found under its name if no other value has this name. -/
theorem find?_of_mem_unique (member : (key, value) ∈ record)
    (unique : ∀ held, (key, held) ∈ record → held = value) : record.find? key = some value := by
  have present : record.has key = true := has_iff.2 (List.mem_map.2 ⟨_, member, rfl⟩)
  obtain ⟨held, found⟩ := Option.isSome_iff_exists.1 present
  rw [found, unique held (mem_of_find? found)]

theorem find?_erase_of_none (absent : record.find? key = none) (other : String) :
    (record.erase other).find? key = none := by
  by_cases same : key = other
  · rw [same]
    exact find?_erase_self other record
  · rw [find?_erase_of_ne same, absent]

end Record

namespace Row

variable {columns : Record} {aliases : List String} {values : List Json} {byNumber : Nat → Bool}

/-- Values under the keys of their columns, from the column at a position on: those of some columns
under the number, the others under the alias. -/
def keyedFrom (byNumber : Nat → Bool) : Nat → List String → List Json → Record
  | position, columnAlias :: aliases, value :: values =>
      (if byNumber position then toString position else columnAlias, value) ::
        keyedFrom byNumber (position + 1) aliases values
  | _, _, _ => []

/-- Values under the keys of their columns. -/
def keyedBy (byNumber : Nat → Bool) (aliases : List String) (values : List Json) : Record :=
  keyedFrom byNumber 0 aliases values

theorem keyedFrom_named (position : Nat) (aliases : List String) (values : List Json) :
    keyedFrom (fun _ => false) position aliases values = aliases.zip values := by
  induction aliases generalizing position values with
  | nil => rfl
  | cons columnAlias rest ih =>
      cases values with
      | nil => rfl
      | cons value others =>
          rw [keyedFrom, ih]
          rfl

/-- A key is the number of a column that is keyed by it, or one of the aliases. -/
theorem mem_keys_keyedFrom {position : Nat} {key : String}
    (member : key ∈ (keyedFrom byNumber position aliases values).keys) :
    (∃ number, position ≤ number ∧ number < position + aliases.length ∧
        byNumber number = true ∧ key = toString number) ∨
      (∃ number, byNumber number = false) ∧ key ∈ aliases := by
  induction aliases generalizing position values with
  | nil => exact nomatch member
  | cons columnAlias rest ih =>
      cases values with
      | nil => exact nomatch member
      | cons value others =>
          rcases List.mem_cons.1 member with own | later
          · dsimp only at own
            split_ifs at own with chosen
            · exact .inl ⟨position, Nat.le_refl _, by simp, chosen, own⟩
            · exact .inr ⟨⟨position, Bool.eq_false_iff.2 chosen⟩, own ▸ List.mem_cons_self⟩
          · rcases ih later with ⟨number, least, most, chosen, named⟩ | ⟨unchosen, inside⟩
            · refine .inl ⟨number, Nat.le_of_succ_le least, ?_, chosen, named⟩
              rw [List.length_cons]
              omega
            · exact .inr ⟨unchosen, List.mem_cons_of_mem _ inside⟩

/-- With distinct aliases that are not numbers of columns, no two columns have the same key.  For
columns that are all keyed by number, the aliases do not matter. -/
theorem nodup_keys_keyedFrom {position : Nat}
    (apart : ∀ number, byNumber number = false → aliases.Nodup ∧
      ∀ other, position ≤ other → other < position + aliases.length → toString other ∉ aliases) :
    (keyedFrom byNumber position aliases values).keys.Nodup := by
  induction aliases generalizing position values with
  | nil => exact List.nodup_nil
  | cons columnAlias rest ih =>
      cases values with
      | nil => exact List.nodup_nil
      | cons value others =>
          have later : ∀ number, byNumber number = false → rest.Nodup ∧
              ∀ other, position + 1 ≤ other → other < position + 1 + rest.length →
                toString other ∉ rest := by
            intro number unchosen
            obtain ⟨distinct, unnumbered⟩ := apart number unchosen
            refine ⟨(List.nodup_cons.1 distinct).2, fun other least most inside => ?_⟩
            refine unnumbered other (Nat.le_of_succ_le least) ?_ (List.mem_cons_of_mem _ inside)
            rw [List.length_cons]
            omega
          refine List.nodup_cons.2 ⟨fun member => ?_, ih later⟩
          dsimp only at member
          rcases mem_keys_keyedFrom member with ⟨number, least, most, -, named⟩ | ⟨unchosen, inside⟩
          · split_ifs at named with chosen
            · have same : position = number := Nat.repr_inj.1 named
              omega
            · obtain ⟨-, unnumbered⟩ := apart position (Bool.eq_false_iff.2 chosen)
              refine unnumbered number (Nat.le_of_succ_le least) ?_ (named ▸ List.mem_cons_self)
              rw [List.length_cons]
              omega
          · obtain ⟨other, unchosen⟩ := unchosen
            obtain ⟨distinct, unnumbered⟩ := apart other unchosen
            split_ifs at inside
            · exact unnumbered position (Nat.le_refl _) (by simp) (List.mem_cons_of_mem _ inside)
            · exact (List.nodup_cons.1 distinct).1 inside

/-- Each value is found under its key, also after other columns have been taken out. -/
theorem keyedValues_eq_ok {position : Nat} (counted : values.length = aliases.length)
    (distinct : (keyedFrom byNumber position aliases values).keys.Nodup)
    (found : ∀ entry ∈ keyedFrom byNumber position aliases values,
      columns.find? entry.1 = some entry.2)
    (unnumbered : ∀ number, position ≤ number → number < position + aliases.length →
      byNumber number = false → columns.find? (toString number) = none) :
    keyedValues columns position aliases = .ok values := by
  induction aliases generalizing columns position values with
  | nil =>
      obtain rfl := List.eq_nil_of_length_eq_zero counted
      rfl
  | cons columnAlias rest ih =>
      cases values with
      | nil => exact nomatch counted
      | cons value others =>
          obtain ⟨fresh, distinctRest⟩ := List.nodup_cons.1 distinct
          obtain ⟨first, foundRest⟩ := List.forall_mem_cons.1 found
          dsimp only at fresh first
          have taken : takeColumn? columns position columnAlias = some (value, columns.erase
              (if byNumber position then toString position else columnAlias)) := by
            unfold takeColumn?
            split_ifs at first ⊢ with chosen
            · rw [first]
            · rw [unnumbered position (Nat.le_refl _) (by simp) (Bool.eq_false_iff.2 chosen), first]
              rfl
          have later : keyedValues (columns.erase
              (if byNumber position then toString position else columnAlias)) (position + 1) rest =
              .ok others := by
            refine ih (Nat.succ.inj counted) distinctRest (fun entry member => ?_)
              fun number least most unchosen => ?_
            · have different : entry.1 ≠
                  (if byNumber position then toString position else columnAlias) :=
                fun same => fresh (same ▸ List.mem_map.2 ⟨entry, member, rfl⟩)
              rw [Record.find?_erase_of_ne different]
              exact foundRest entry member
            · refine Record.find?_erase_of_none (unnumbered number (Nat.le_of_succ_le least) ?_
                unchosen) _
              rw [List.length_cons]
              omega
          rw [keyedValues, taken]
          dsimp only
          rw [later]
          rfl

/-- A row with its columns under their keys, in any order and with any other entries, is the row of
its values. -/
theorem unzip_keyedBy (byNumber : Nat → Bool) (counted : values.length = aliases.length)
    (distinct : (keyedBy byNumber aliases values).keys.Nodup) (further : Record)
    (apart : ∀ key ∈ further.keys, key ∉ (keyedBy byNumber aliases values).keys)
    (unnumbered : ∀ number < aliases.length, byNumber number = false →
      toString number ∉ (keyedBy byNumber aliases values).keys ++ further.keys)
    (rearranged : columns.Perm (keyedBy byNumber aliases values ++ further)) :
    (Row.keyed columns).unzip aliases = (Row.positional values).unzip aliases := by
  have found : (Row.keyed columns).values aliases = .ok values := by
    refine keyedValues_eq_ok counted distinct (fun entry member => ?_)
      fun number _ most unchosen => ?_
    · have present : entry ∈ columns := rearranged.mem_iff.2 (List.mem_append_left _ member)
      refine Record.find?_of_mem_unique present fun held other => ?_
      rcases List.mem_append.1 (rearranged.mem_iff.1 other) with own | foreign
      · have first := Record.find?_of_mem distinct own
        have second := Record.find?_of_mem distinct member
        exact Option.some.inj (first.symm.trans second)
      · exact absurd (List.mem_map.2 ⟨entry, member, rfl⟩)
          (apart entry.1 (List.mem_map.2 ⟨_, foreign, rfl⟩))
    · refine Record.find?_of_absent fun member => ?_
      refine unnumbered number (by omega) unchosen ?_
      rw [Record.keys, Record.keys, ← List.map_append]
      exact (rearranged.map Prod.fst).mem_iff.1 member
  have placed : (Row.positional values).values aliases = .ok values := by
    rw [Row.values, List.getElem?_eq_none (Nat.le_of_eq counted.symm)]
  unfold unzip
  rw [found, placed]

/-- A row with its columns under distinct aliases that are no numbers of columns is the row of its
values. -/
theorem unzip_keyed (distinct : aliases.Nodup) (counted : values.length = aliases.length)
    (unnumbered : ∀ position < aliases.length, toString position ∉ aliases)
    (named : columns.Perm (aliases.zip values)) :
    (Row.keyed columns).unzip aliases = (Row.positional values).unzip aliases := by
  have keyed : keyedBy (fun _ => false) aliases values = aliases.zip values :=
    keyedFrom_named 0 aliases values
  have keys : (keyedBy (fun _ => false) aliases values).keys = aliases := by
    rw [keyed]
    exact List.map_fst_zip (Nat.le_of_eq counted.symm)
  refine unzip_keyedBy (fun _ => false) counted (keys.symm ▸ distinct) []
    (fun key member => nomatch member) (fun number within _ => ?_) ?_
  · rw [keys, Record.keys, List.map_nil, List.append_nil]
    exact unnumbered number within
  · rwa [keyed, List.append_nil]

/-- A row with all columns under their numbers is the row of its values, whatever the aliases are.
So is a row with some columns under their numbers and the others under their aliases, with further
entries and in any order, as long as the aliases are distinct, no alias is the number of a column,
and the further keys are neither. -/
theorem unzip_keyed_alike (aliases : List String) (values : List Json)
    (counted : values.length = aliases.length) (columns : Record) :
    (columns.Perm (keyedBy (fun _ => true) aliases values) →
      (Row.keyed columns).unzip aliases = (Row.positional values).unzip aliases) ∧
    (aliases.Nodup → (∀ position < aliases.length, toString position ∉ aliases) →
      ∀ (byNumber : Nat → Bool) (further : Record),
        (∀ key ∈ further.keys, key ∉ aliases ∧
          ∀ position < aliases.length, key ≠ toString position) →
        columns.Perm (keyedBy byNumber aliases values ++ further) →
        (Row.keyed columns).unzip aliases = (Row.positional values).unzip aliases) := by
  constructor
  · intro rearranged
    refine unzip_keyedBy (fun _ => true) counted (nodup_keys_keyedFrom fun _ impossible => ?_)
      [] (fun key member => nomatch member) (fun _ _ impossible => ?_) ?_
    · exact nomatch impossible
    · exact nomatch impossible
    · rwa [List.append_nil]
  · intro distinct unnumbered byNumber further apart rearranged
    refine unzip_keyedBy byNumber counted (nodup_keys_keyedFrom fun _ _ => ?_) further
      (fun key member taken => ?_) (fun number within unchosen taken => ?_) rearranged
    · exact ⟨distinct, fun other _ within => unnumbered other (by omega)⟩
    · obtain ⟨foreign, notNumber⟩ := apart key member
      rcases mem_keys_keyedFrom taken with ⟨number, -, within, -, named⟩ | ⟨-, inside⟩
      · exact notNumber number (by omega) named
      · exact foreign inside
    · rcases List.mem_append.1 taken with own | other
      · rcases mem_keys_keyedFrom own with ⟨other, -, -, chosen, named⟩ | ⟨-, inside⟩
        · obtain rfl : number = other := Nat.repr_inj.1 named
          exact Bool.noConfusion (unchosen.symm.trans chosen)
        · exact unnumbered number within inside
      · exact (apart _ other).2 number within rfl

/-- A picture that is joined comes back alike with its own number by position, the other columns by
name, in another order, and with the number of a column that is not there. -/
theorem unzip_keyed_alike_picture :
    (Row.keyed [("image.path", .string "p"), ("9", .null), ("0", .integer 1),
        ("image.id", .integer 2)]).unzip ["id", "image.id", "image.path"] =
      (Row.positional [.integer 1, .integer 2, .string "p"]).unzip
        ["id", "image.id", "image.path"] := by
  refine (unzip_keyed_alike ["id", "image.id", "image.path"]
    [.integer 1, .integer 2, .string "p"] rfl _).2 (by decide) (by decide) (· == 0)
    [("9", .null)] (by decide) ?_
  exact @List.perm_append_comm (String × Json) [("image.path", .string "p"), ("9", .null)]
    [("0", .integer 1), ("image.id", .integer 2)]

end Row

end EntityQuery

import EntityQuery.Json.Value
import Mathlib.Data.List.Nodup
import Mathlib.Tactic.SplitIfs

/-!
# Values of a record

A record has distinct names, so that what is found under a name is the one entry with that name.
-/

namespace EntityQuery.Record

variable {record : Record} {key : String} {value : Json}

theorem find?_of_absent (absent : key ∉ record.keys) : record.find? key = none := by
  rw [find?, List.lookup_eq_none_iff]
  intro entry member
  exact bne_iff_ne.2 fun same => absent (List.mem_map.2 ⟨entry, member, same.symm⟩)

theorem mem_keys_of_find? (found : record.find? key = some value) : key ∈ record.keys := by
  by_contra absent
  rw [find?_of_absent absent] at found
  exact nomatch found

theorem find?_append_of_absent (absent : key ∉ record.keys) (more : Record) :
    Record.find? (record ++ more) key = Record.find? more key := by
  have missing := find?_of_absent absent
  unfold find? at missing ⊢
  rw [List.lookup_append, missing, Option.none_or]

/-- With distinct names, an entry is what is found under its name. -/
theorem find?_of_mem (distinct : record.keys.Nodup) (member : (key, value) ∈ record) :
    record.find? key = some value := by
  induction record with
  | nil => exact nomatch member
  | cons entry rest ih =>
      obtain ⟨present, kept⟩ := entry
      obtain ⟨fresh, others⟩ := List.nodup_cons.1 distinct
      unfold find?
      rw [List.lookup_cons]
      rcases List.mem_cons.1 member with same | later
      · obtain ⟨rfl, rfl⟩ := Prod.mk.inj same
        rw [beq_self_eq_true]
      · have distinctKeys : key ≠ present := by
          rintro rfl
          exact fresh (List.mem_map.2 ⟨_, later, rfl⟩)
        rw [beq_false_of_ne distinctKeys]
        exact ih others later

theorem mem_of_find? (found : record.find? key = some value) : (key, value) ∈ record := by
  obtain ⟨before, after, rfl, -⟩ := List.lookup_eq_some_iff.1 found
  simp

theorem has_iff : record.has key = true ↔ key ∈ record.keys := by
  constructor
  · intro present
    obtain ⟨value, found⟩ := Option.isSome_iff_exists.1 present
    exact mem_keys_of_find? found
  · intro member
    by_contra absent
    have missing : record.find? key = none := Option.not_isSome_iff_eq_none.1 absent
    obtain ⟨entry, entryMember, rfl⟩ := List.mem_map.1 member
    exact bne_iff_ne.1 (List.lookup_eq_none_iff.1 missing entry entryMember) rfl

theorem find?_erase_of_ne {other : String} (different : other ≠ key) (record : Record) :
    (record.erase key).find? other = record.find? other := by
  unfold erase find?
  induction record with
  | nil => rfl
  | cons entry rest ih =>
      obtain ⟨present, held⟩ := entry
      rw [List.filter_cons, List.lookup_cons]
      split_ifs with kept
      · rw [List.lookup_cons, ih]
      · obtain rfl : present = key := by simpa using kept
        rw [beq_false_of_ne different]
        exact ih

theorem find?_erase_self (key : String) (record : Record) :
    (record.erase key).find? key = none := by
  refine find?_of_absent fun member => ?_
  obtain ⟨entry, kept, named⟩ := List.mem_map.1 member
  exact bne_iff_ne.1 (List.mem_filter.1 kept).2 named

end EntityQuery.Record

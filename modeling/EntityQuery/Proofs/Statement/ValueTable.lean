import EntityQuery.Proofs.Entity.Names
import EntityQuery.Proofs.Fragment.Separating
import EntityQuery.Proofs.Row.Lookup
import EntityQuery.Proofs.Statement.Batches
import EntityQuery.Proofs.Statement.Parts

/-!
# Tables of values

A statement that writes several rows names its fields once, as the first row has them, and then has
one tuple of values for each row.  Rows may name their fields in different orders, and may hold more
than fields, as long as the fields are the same: every tuple is filled by name.
-/

namespace EntityQuery

open Outcome

/-- The known fields of a record, each with the value that the record has for it. -/
structure Entity.Assigns (entity : Entity) (row : List (Field × Json)) (record : Record) :
    Prop where
  distinct : (row.map Prod.fst).Nodup
  mem_iff (field : Field) (value : Json) : (field, value) ∈ row ↔
    entity.field? field.name = some field ∧ record.find? field.name = some value

/-- Records, each with distinct names, that name the same fields. -/
structure Entity.SharesFields (entity : Entity) (records : List Record) : Prop where
  distinct : ∀ record ∈ records, record.keys.Nodup
  same : ∀ record ∈ records, ∀ other ∈ records, ∀ name, entity.hasField name = true →
    record.has name = other.has name

/-- Fields of an entity, and tuples with one value for each of them. -/
structure ValueTable (entity : Entity) where
  fields : List Field
  tuples : List (List Json)
  distinct : fields.Nodup
  named : ∀ field ∈ fields, entity.field? field.name = some field
  full : ∀ tuple ∈ tuples, tuple.length = fields.length

/-- The value of a record for a field that it names. -/
def Record.valueOf (record : Record) (field : Field) : Json :=
  (record.find? field.name).getD .null

theorem Entity.SharesFields.mono {entity : Entity} {records others : List Record}
    (shares : entity.SharesFields records) (within : ∀ record ∈ others, record ∈ records) :
    entity.SharesFields others where
  distinct record member := shares.distinct record (within record member)
  same record member other otherMember :=
    shares.same record (within record member) other (within other otherMember)

/-- Records that have all fields share them. -/
theorem Entity.SharesFields.of_complete {entity : Entity} {records : List Record}
    (distinct : ∀ record ∈ records, record.keys.Nodup)
    (complete : ∀ name ∈ entity.fieldNames, ∀ record ∈ records, record.has name = true) :
    entity.SharesFields records where
  distinct := distinct
  same record member other otherMember name known := by
    have known := hasField_iff.1 known
    rw [complete name known record member, complete name known other otherMember]

namespace Plan

variable {entity : Entity} {record : Record} {field : Field}

theorem mem_knownFields : field ∈ knownFields entity record ↔
    entity.field? field.name = some field ∧ record.has field.name = true := by
  rw [knownFields, List.mem_filterMap, Record.has_iff]
  constructor
  · rintro ⟨name, member, found⟩
    obtain rfl := Entity.field?_name found
    exact ⟨found, member⟩
  · rintro ⟨found, member⟩
    exact ⟨field.name, member, found⟩

theorem nodup_knownFields (distinct : record.keys.Nodup) : (knownFields entity record).Nodup := by
  refine distinct.filterMap fun name other field found otherFound => ?_
  exact (Entity.field?_name found).symm.trans (Entity.field?_name otherFound)

theorem slot_eq_bound (present : record.has field.name = true) :
    slot record field = .bound (record.valueOf field) := by
  obtain ⟨value, found⟩ := Option.isSome_iff_exists.1 present
  rw [slot, Record.valueOf, found]
  rfl

end Plan

namespace ValueTable

variable {entity : Entity}

def size (table : ValueTable entity) : Nat := table.tuples.length

/-- The tuples, read against the list of fields. -/
def rows (table : ValueTable entity) : List (List (Field × Json)) :=
  table.tuples.map table.fields.zip

/-- The values of records for the known fields of the first one. -/
def ofRecords (entity : Entity) (first : Record) (distinct : first.keys.Nodup)
    (records : List Record) : ValueTable entity where
  fields := Plan.knownFields entity first
  tuples := records.map fun record => (Plan.knownFields entity first).map record.valueOf
  distinct := Plan.nodup_knownFields distinct
  named _ member := (Plan.mem_knownFields.1 member).1
  full := by simp

/-- The table in text, with its values in cells of a certain form. -/
def fragment (cell : Field × Json → Fragment) (table : ValueTable entity) : Fragment :=
  .joined ", " (table.rows.map fun row => (Fragment.intercalate ", " (row.map cell)).parenthesized)

theorem map_snd_rows {table : ValueTable entity} :
    table.rows.map (List.map Prod.snd) = table.tuples := by
  unfold rows
  rw [List.map_map]
  refine (List.map_congr_left fun tuple member => ?_).trans (List.map_id table.tuples)
  exact List.map_snd_zip (Nat.le_of_eq (table.full tuple member))

/-- Cells that each hold the value of their entry hold the values in order. -/
theorem values_cells {cell : Field × Json → Fragment}
    (single : ∀ entry, (cell entry).values = [entry.2]) (row : List (Field × Json)) :
    (row.map cell).flatMap Fragment.values = row.map Prod.snd := by
  induction row with
  | nil => rfl
  | cons entry rest ih =>
      rw [List.map_cons, List.flatMap_cons, ih, single, List.map_cons, List.singleton_append]

theorem values_row {cell : Field × Json → Fragment}
    (single : ∀ entry, (cell entry).values = [entry.2]) (row : List (Field × Json)) :
    (Fragment.intercalate ", " (row.map cell)).parenthesized.values = row.map Prod.snd := by
  simp [Fragment.parenthesized, Fragment.values_intercalate, values_cells single]

/-- In order, the values of a table are its tuples. -/
theorem values_fragment (cell : Field × Json → Fragment)
    (single : ∀ entry, (cell entry).values = [entry.2]) (table : ValueTable entity) :
    (table.fragment cell).values = table.tuples.flatten := by
  unfold fragment
  rw [Fragment.joined_eq_intercalate (List.forall_mem_map.2 fun row _ => by
    simp [Fragment.parenthesized]), Fragment.values_intercalate, List.flatMap_map]
  simp only [values_row single]
  rw [List.flatMap_def, map_snd_rows]

section Records

variable {first : Record} {rest : List Record}

theorem has_of_shares (shares : entity.SharesFields (first :: rest)) {record : Record}
    (member : record ∈ first :: rest) {field : Field}
    (known : field ∈ Plan.knownFields entity first) : record.has field.name = true := by
  obtain ⟨found, present⟩ := Plan.mem_knownFields.1 known
  have hasField : entity.hasField field.name = true := by
    rw [Entity.hasField, found]
    rfl
  rw [← shares.same first List.mem_cons_self record member field.name hasField]
  exact present

theorem rows_ofRecords (distinct : first.keys.Nodup) (records : List Record) :
    (ofRecords entity first distinct records).rows = records.map fun record =>
      (Plan.knownFields entity first).map fun field => (field, record.valueOf field) := by
  simp only [rows, ofRecords, List.map_map]
  refine List.map_congr_left fun record _ => ?_
  exact List.map_prod_left_eq_zip.symm

/-- Tuples that are filled by name make up the table. -/
theorem fragment_ofRecords {distinct : first.keys.Nodup} {records : List Record}
    {cell : Field × Json → Fragment} {slotOf : Record → Field → Fragment}
    (same : ∀ record ∈ records, ∀ field ∈ Plan.knownFields entity first,
      slotOf record field = cell (field, record.valueOf field)) :
    (ofRecords entity first distinct records).fragment cell =
      .joined ", " (records.map fun record => (Fragment.intercalate ", "
        ((Plan.knownFields entity first).map (slotOf record))).parenthesized) := by
  rw [fragment, rows_ofRecords, List.map_map]
  congr 1
  refine List.map_congr_left fun record member => ?_
  rw [Function.comp_apply, List.map_map]
  congr 2
  exact List.map_congr_left fun field known => (same record member field known).symm

/-- Each tuple assigns to every known field the value of its record. -/
theorem assigns_ofRecords (shares : entity.SharesFields (first :: rest)) :
    List.Forall₂ entity.Assigns
      (ofRecords entity first (shares.distinct first List.mem_cons_self) (first :: rest)).rows
      (first :: rest) := by
  have distinct := shares.distinct first List.mem_cons_self
  rw [rows_ofRecords distinct, List.forall₂_map_left_iff, List.forall₂_same]
  intro record member
  constructor
  · rw [List.map_map]
    simpa [Function.comp_def] using Plan.nodup_knownFields distinct
  · intro field value
    constructor
    · intro entry
      obtain ⟨known, knownMember, same⟩ := List.mem_map.1 entry
      obtain ⟨rfl, rfl⟩ := Prod.mk.inj same
      have present := has_of_shares shares member knownMember
      obtain ⟨value, found⟩ := Option.isSome_iff_exists.1 present
      refine ⟨(Plan.mem_knownFields.1 knownMember).1, ?_⟩
      rw [Record.valueOf, found]
      rfl
    · rintro ⟨known, found⟩
      have hasField : entity.hasField field.name = true := by
        rw [Entity.hasField, known]
        rfl
      have present : first.has field.name = true := by
        rw [shares.same first List.mem_cons_self record member field.name hasField, Record.has,
          found]
        rfl
      refine List.mem_map.2 ⟨field, Plan.mem_knownFields.2 ⟨known, present⟩, ?_⟩
      rw [Record.valueOf, found]
      rfl

end Records

/-- Where each batch is written by a statement with a table, all rows are written in order. -/
theorem exists_of_batches {writes : ValueTable entity → Statement → Prop}
    {step : List Record → Except Error Statement} {batches : List (List Record)}
    {statements : List Statement} (shares : entity.SharesFields batches.flatten)
    (each : ∀ {batch statement}, entity.SharesFields batch → step batch = .ok statement →
      ∃ table, writes table statement ∧ List.Forall₂ entity.Assigns table.rows batch)
    (written : batches.mapM step = .ok statements) :
    ∃ tables, List.Forall₂ writes tables statements ∧
      tables.map size = batches.map List.length ∧
      List.Forall₂ entity.Assigns (tables.flatMap rows) batches.flatten := by
  have stepped := mapM_eq_ok.1 written
  induction stepped with
  | nil => exact ⟨[], .nil, rfl, .nil⟩
  | @cons batch statement others rest first laterStepped ih =>
      have within : ∀ record ∈ others.flatten, record ∈ (batch :: others).flatten :=
        fun record member => List.mem_append_right batch member
      obtain ⟨table, tableWritten, assigned⟩ :=
        each (shares.mono fun record member => List.mem_append_left _ member) first
      obtain ⟨tables, othersWritten, sizes, othersAssigned⟩ :=
        ih (shares.mono within) (mapM_eq_ok.2 laterStepped)
      refine ⟨table :: tables, .cons tableWritten othersWritten, ?_, ?_⟩
      · have counted := assigned.length_eq
        rw [rows, List.length_map] at counted
        rw [List.map_cons, List.map_cons, sizes, size, counted]
      · exact List.rel_append assigned othersAssigned

end ValueTable

end EntityQuery

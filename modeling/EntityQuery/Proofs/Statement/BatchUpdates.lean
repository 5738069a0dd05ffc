import EntityQuery.Proofs.Execution.Validation
import EntityQuery.Proofs.Statement.ValueTable

/-!
# Updates one by one and in batches

A record can be written by an update of its own, which binds its values in SET and WHERE, or in a
batch, which reads all values from a list.  Records that carry their primary key and something else
are written alike both ways: the same fields get the same values, and the same key finds the row.
-/

namespace EntityQuery

open Outcome

/-- The fields and values of the primary key of a record. -/
def Entity.primaryEntries (entity : Entity) (record : Record) : List (Field × Json) :=
  entity.primaryFields.map fun field => (field, record.valueOf field)

/-- The record has a value for the whole primary key, and for some other field. -/
structure Entity.IsWritable (entity : Entity) (record : Record) : Prop where
  keyed : ∀ field ∈ entity.primaryFields, record.has field.name = true
  assigned : ∃ field, entity.field? field.name = some field ∧ field.primary = false ∧
    record.has field.name = true

namespace Plan

/-- A placeholder for the value of a field, cast to its type. -/
def castCell (entry : Field × Json) : Fragment :=
  match entry.1.type.sqlType? with
  | some sqlType => .bound entry.2 ++ .ofText ("::" ++ sqlType)
  | none => .bound entry.2

/-- The condition that the column of a field has a value. -/
def keyCondition (qualifier : Ident) (entry : Field × Json) : Fragment :=
  .ofText (qualifier.toSql ++ "." ++ entry.1.column.toSql ++ " = ") ++ .bound entry.2

/-- The value of a record for a field, as an operand. -/
def operandOf (record : Record) (field : Field) : Expr :=
  match record.find? field.name with
  | some value => .value value
  | none => .unbound

/-- The statement assigns the fields of one list in the row whose key is given by another. -/
def Updates (plan : Plan) (set key : List (Field × Json)) (statement : Statement) : Prop :=
  ∃ scope source qualifier returned, plan.Writable scope source returned ∧
    scope.qualifier = .ok qualifier ∧
    statement = .ofFragment
      (.clauses
        [.ofText ("UPDATE " ++ source ++ " SET ") ++ .joined ", " (set.map fun entry =>
            .ofText (entry.1.column.toSql ++ " = ") ++ .bound entry.2),
          .ofText "WHERE " ++ Junction.and.combine (key.map (keyCondition qualifier)),
          returningClause returned])
      (OutputColumn.aliases returned) ∧
    statement.values = set.map Prod.snd ++ key.map Prod.snd ++ (OutputColumn.list returned).values

/-- The statement assigns the fields of a table that are not in the primary key, in the rows whose
keys are in the table. -/
def UpdatesBatch (plan : Plan) (table : ValueTable plan.entity) (statement : Statement) : Prop :=
  ∃ scope source qualifier returned, plan.Writable scope source returned ∧
    scope.qualifier = .ok qualifier ∧
    statement = .ofFragment
      (.clauses
        [.ofText ("UPDATE " ++ source ++ " SET " ++ ", ".intercalate
            ((table.fields.filter fun field => !field.primary).map fun field =>
              field.column.toSql ++ " = v." ++ field.column.toSql)),
          .ofText "FROM (VALUES " ++ table.fragment castCell ++ .ofText (") AS v(" ++
            ", ".intercalate (table.fields.map fun field => field.column.toSql) ++ ")"),
          .ofText ("WHERE " ++ " AND ".intercalate (plan.entity.primaryFields.map fun field =>
            qualifier.toSql ++ "." ++ field.column.toSql ++ " = v." ++ field.column.toSql)),
          returningClause returned])
      (OutputColumn.aliases returned) ∧
    statement.values = table.tuples.flatten ++ (OutputColumn.list returned).values

/-- The update of a record by itself assigns the fields of a row that are not in the primary key,
where the primary key is as in the row. -/
structure UpdatesAlike (plan : Plan) (row : List (Field × Json)) (record : Record) : Prop where
  assigns : plan.entity.Assigns row record
  alike : ∃ statement set key, plan.update record = .ok statement ∧
    plan.Updates set key statement ∧ (row.filter fun entry => !entry.1.primary).Perm set ∧
    (row.filter fun entry => entry.1.primary).Perm key ∧
    key.map Prod.fst = plan.entity.primaryFields ∧
    ∀ entry ∈ set, entry.1 ∉ plan.entity.primaryFields

variable {plan : Plan} {scope : Scope} {record : Record} {statement : Statement}

theorem Writable.exists_qualifier {source : String} {returned : List OutputColumn}
    (writable : plan.Writable scope source returned) :
    ∃ qualifier, scope.qualifier = .ok qualifier := by
  unfold Scope.qualifier
  cases scope.tableAlias with
  | some tableAlias => exact ⟨tableAlias, rfl⟩
  | none =>
      obtain ⟨_, qualified, -⟩ := bind_eq_ok.1 writable.sourced
      obtain ⟨table, required, -⟩ := bind_eq_ok.1 qualified
      exact ⟨table, required⟩

section Single

variable {qualifier : Ident}

theorem column_of_mem (distinct : plan.entity.fieldNames.Nodup) (resolved : plan.scope = .ok scope)
    (qualified : scope.qualifier = .ok qualifier) {field : Field}
    (member : field ∈ plan.entity.fields) :
    scope.column field.name = .ok (qualifier.qualified field.column) := by
  have found : scope.entity.field field.name = .ok field := by
    rw [entity_of_scope resolved, Entity.field, Entity.field?_of_mem distinct member]
  rw [Scope.column, found, qualified]
  rfl

theorem formatAll_keyConditions {fields : List Field}
    (columns : ∀ field ∈ fields, scope.column field.name = .ok (qualifier.qualified field.column))
    (present : ∀ field ∈ fields, record.has field.name = true) :
    Expr.formatAll scope (fields.map fun field =>
        .condition (.equalTo field.name (operandOf record field))) =
      .ok ((fields.map fun field => (field, record.valueOf field)).map
        (keyCondition qualifier)) := by
  induction fields with
  | nil => rfl
  | cons field rest ih =>
      obtain ⟨column, columns⟩ := List.forall_mem_cons.1 columns
      obtain ⟨held, present⟩ := List.forall_mem_cons.1 present
      obtain ⟨value, found⟩ := Option.isSome_iff_exists.1 held
      have first : (Expr.condition (.equalTo field.name (.value value))).format scope =
          .ok (keyCondition qualifier (field, value)) := by
        change (Target.format scope (.name field.name) >>= _) = _
        simp only [Target.format, column]
        rfl
      simp only [List.map_cons, Expr.formatAll, operandOf, found, first, Record.valueOf]
      exact bind_eq_ok.2 ⟨_, rfl, bind_eq_ok.2 ⟨_, ih columns present, rfl⟩⟩

theorem primaryFilter_eq (distinct : plan.entity.fieldNames.Nodup)
    (keyed : plan.entity.primaryFields ≠ []) (writable : plan.entity.IsWritable record)
    (resolved : plan.scope = .ok scope) (qualified : scope.qualifier = .ok qualifier) :
    plan.primaryFilter scope record = .ok (.ofText "WHERE " ++
      Junction.and.combine ((plan.entity.primaryEntries record).map (keyCondition qualifier))) := by
  have columns : ∀ field ∈ plan.entity.primaryFields,
      scope.column field.name = .ok (qualifier.qualified field.column) := fun field member =>
    column_of_mem distinct resolved qualified (List.mem_of_mem_filter member)
  have equations := formatAll_keyConditions columns writable.keyed
  have grouped : (Grouping.equalsAll (plan.entity.primaryFields.map fun field =>
      (field.name, operandOf record field))).toExpr.format scope =
      .ok (Junction.and.combine
        ((plan.entity.primaryEntries record).map (keyCondition qualifier))) := by
    unfold Grouping.equalsAll Grouping.toExpr
    rw [List.map_map, Expr.format]
    exact bind_eq_ok.2 ⟨_, equations, rfl⟩
  rw [primaryFilter_of_carried keyed writable.keyed]
  exact bind_eq_ok.2 ⟨_, grouped, rfl⟩

end Single

section Entries

variable {entity : Entity} {row : List (Field × Json)} {field : Field} {value : Json}

theorem mem_assignments (distinct : record.keys.Nodup) :
    (field, value) ∈ assignments entity record ↔
      (entity.field? field.name = some field ∧ record.find? field.name = some value) ∧
        field.primary = false := by
  rw [assignments, List.mem_filterMap]
  constructor
  · rintro ⟨⟨name, held⟩, member, given⟩
    obtain ⟨known, found, kept⟩ := Option.bind_eq_some_iff.1 given
    split_ifs at kept with primary
    obtain ⟨rfl, rfl⟩ := Prod.mk.inj (Option.some.inj kept)
    obtain rfl := Entity.field?_name found
    exact ⟨⟨found, Record.find?_of_mem distinct member⟩, Bool.eq_false_iff.2 primary⟩
  · rintro ⟨⟨found, held⟩, other⟩
    exact ⟨(field.name, value), Record.mem_of_find? held, by simp [found, other]⟩

theorem nodup_assignments (distinct : record.keys.Nodup) (entity : Entity) :
    (assignments entity record).Nodup := by
  refine (List.Nodup.of_map _ distinct).filterMap ?_
  rintro ⟨name, held⟩ ⟨other, kept⟩ entry given otherGiven
  obtain ⟨known, found, assigned⟩ := Option.bind_eq_some_iff.1 given
  obtain ⟨otherKnown, otherFound, otherAssigned⟩ := Option.bind_eq_some_iff.1 otherGiven
  split_ifs at assigned otherAssigned
  have same := (Option.some.inj assigned).trans (Option.some.inj otherAssigned).symm
  obtain ⟨rfl, rfl⟩ := Prod.mk.inj same
  exact Prod.ext ((Entity.field?_name found).symm.trans (Entity.field?_name otherFound)) rfl

theorem mem_primaryEntries (distinct : entity.fieldNames.Nodup)
    (writable : entity.IsWritable record) :
    (field, value) ∈ entity.primaryEntries record ↔
      (entity.field? field.name = some field ∧ record.find? field.name = some value) ∧
        field.primary = true := by
  rw [Entity.primaryEntries, List.mem_map]
  constructor
  · rintro ⟨known, member, same⟩
    obtain ⟨rfl, rfl⟩ := Prod.mk.inj same
    obtain ⟨inside, primary⟩ := List.mem_filter.1 member
    obtain ⟨value, found⟩ := Option.isSome_iff_exists.1 (writable.keyed known member)
    refine ⟨⟨Entity.field?_of_mem distinct inside, ?_⟩, primary⟩
    rw [Record.valueOf, found]
    rfl
  · rintro ⟨⟨known, found⟩, primary⟩
    refine ⟨field, List.mem_filter.2 ⟨List.mem_of_find?_eq_some known, primary⟩, ?_⟩
    rw [Record.valueOf, found]
    rfl

/-- In a row for a record, what is not in the primary key is what the record assigns by itself. -/
theorem perm_assignments (distinct : record.keys.Nodup) (assigns : entity.Assigns row record) :
    (row.filter fun entry => !entry.1.primary).Perm (assignments entity record) := by
  have rowDistinct := (List.Nodup.of_map _ assigns.distinct).filter fun entry => !entry.1.primary
  rw [List.perm_ext_iff_of_nodup rowDistinct (nodup_assignments distinct entity)]
  rintro ⟨field, value⟩
  rw [List.mem_filter, assigns.mem_iff, mem_assignments distinct, Bool.not_eq_true']

theorem map_fst_primaryEntries : (entity.primaryEntries record).map Prod.fst =
    entity.primaryFields := by
  simp [Entity.primaryEntries, Function.comp_def]

/-- In a row for a record, what is in the primary key is what finds the record by itself. -/
theorem perm_primaryEntries (distinct : entity.fieldNames.Nodup)
    (writable : entity.IsWritable record) (assigns : entity.Assigns row record) :
    (row.filter fun entry => entry.1.primary).Perm (entity.primaryEntries record) := by
  have rowDistinct := (List.Nodup.of_map _ assigns.distinct).filter fun entry => entry.1.primary
  have keyDistinct : (entity.primaryEntries record).Nodup := by
    refine List.Nodup.of_map Prod.fst ?_
    rw [map_fst_primaryEntries]
    exact (List.Nodup.of_map _ distinct).filter _
  rw [List.perm_ext_iff_of_nodup rowDistinct keyDistinct]
  rintro ⟨field, value⟩
  rw [List.mem_filter, assigns.mem_iff, mem_primaryEntries distinct writable]

end Entries

/-- A plan that finds rows by their primary key alone, on an entity that has one. -/
structure IsKeyed (plan : Plan) : Prop where
  distinct : plan.entity.fieldNames.Nodup
  keyed : plan.entity.primaryFields ≠ []
  unfiltered : plan.filter = []

section Agreement

theorem assignments_ne_nil (distinct : record.keys.Nodup) {entity : Entity}
    (writable : entity.IsWritable record) : assignments entity record ≠ [] := by
  obtain ⟨field, found, other, present⟩ := writable.assigned
  obtain ⟨value, held⟩ := Option.isSome_iff_exists.1 present
  exact List.ne_nil_of_mem ((mem_assignments distinct).2 ⟨⟨found, held⟩, other⟩)

theorem updateFilter_eq (keyed : plan.IsKeyed) (carried : plan.entity.IsWritable record)
    {qualifier : Ident} (resolved : plan.scope = .ok scope)
    (qualified : scope.qualifier = .ok qualifier) :
    plan.updateFilter scope record = .ok (.ofText "WHERE " ++
      Junction.and.combine ((plan.entity.primaryEntries record).map (keyCondition qualifier))) := by
  rw [updateFilter, keyed.unfiltered, List.isEmpty_nil, if_pos rfl]
  exact primaryFilter_eq keyed.distinct keyed.keyed carried resolved qualified

/-- A record with its key can be updated by itself wherever rows can be written at all. -/
theorem exists_update_iff (keyed : plan.IsKeyed) (distinct : record.keys.Nodup)
    (carried : plan.entity.IsWritable record) :
    (∃ statement, plan.update record = .ok statement) ↔
      ∃ scope source returned, plan.Writable scope source returned := by
  constructor
  · rintro ⟨statement, updated⟩
    obtain ⟨-, scope, source, filter, returned, writable, -, -⟩ := update_eq_ok.1 updated
    exact ⟨scope, source, returned, writable⟩
  · rintro ⟨scope, source, returned, writable⟩
    obtain ⟨qualifier, qualified⟩ := writable.exists_qualifier
    have filter := updateFilter_eq keyed carried writable.resolved qualified
    exact ⟨_, update_eq_ok.2 ⟨assignments_ne_nil distinct carried, scope, source, _, returned,
      writable, filter, rfl⟩⟩

theorem values_assignment (entry : Field × Json) : (assignment entry).values = [entry.2] := by
  simp [assignment, Fragment.bound]

theorem values_keyCondition (qualifier : Ident) (entry : Field × Json) :
    (keyCondition qualifier entry).values = [entry.2] := by
  simp [keyCondition, Fragment.bound]

theorem updates_of_update (keyed : plan.IsKeyed) (carried : plan.entity.IsWritable record)
    (updated : plan.update record = .ok statement) :
    plan.Updates (assignments plan.entity record) (plan.entity.primaryEntries record)
      statement := by
  obtain ⟨-, scope, source, filter, returned, writable, given, made⟩ := update_eq_ok.1 updated
  obtain ⟨qualifier, qualified⟩ := writable.exists_qualifier
  have same := updateFilter_eq keyed carried writable.resolved qualified
  obtain rfl := Except.ok.inj (given.symm.trans same)
  refine ⟨scope, source, qualifier, returned, writable, qualified, made, ?_⟩
  have set : (Fragment.joined ", " ((assignments plan.entity record).map assignment)).values =
      (assignments plan.entity record).map Prod.snd :=
    (Fragment.values_joined ", " (List.forall_mem_map.2 fun _ _ => by simp [assignment])).trans
      (ValueTable.values_cells values_assignment _)
  have key : (Junction.and.combine
      ((plan.entity.primaryEntries record).map (keyCondition qualifier))).values =
      (plan.entity.primaryEntries record).map Prod.snd :=
    (Fragment.values_combine .and (List.forall_mem_map.2 fun _ _ => by
      simp [keyCondition, Fragment.bound])).trans
      (ValueTable.values_cells (values_keyCondition qualifier) _)
  rw [made, ← set, ← key]
  refine (Fragment.values_joined " " ?_).trans ?_
  · simp [returningClause]
  · simp [returningClause]

theorem updatesAlike_of_update {row : List (Field × Json)} (keyed : plan.IsKeyed)
    (distinct : record.keys.Nodup) (carried : plan.entity.IsWritable record)
    (assigns : plan.entity.Assigns row record) (updated : plan.update record = .ok statement) :
    plan.UpdatesAlike row record := by
  refine ⟨assigns, statement, _, _, updated, updates_of_update keyed carried updated,
    perm_assignments distinct assigns, perm_primaryEntries keyed.distinct carried assigns,
    map_fst_primaryEntries, ?_⟩
  rintro ⟨field, value⟩ member primary
  have other := ((mem_assignments distinct).1 member).2
  rw [(List.mem_filter.1 primary).2] at other
  exact nomatch other

section Batch

theorem equals_values (before : String) (column : Ident) :
    before ++ " = " ++ valuesName.qualified column = before ++ " = v." ++ column.toSql := by
  have named : valuesName.qualified column = "v." ++ column.toSql := rfl
  have keyword : " = v." = " = " ++ "v." := rfl
  rw [named, keyword]
  simp only [String.append_assoc]

theorem map_batchAssignment (fields : List Field) : fields.map batchAssignment =
    fields.map fun field => field.column.toSql ++ " = v." ++ field.column.toSql :=
  List.map_congr_left fun _ _ => equals_values _ _

theorem map_batchKey (qualifier : Ident) (fields : List Field) : fields.map (batchKey qualifier) =
    fields.map fun field =>
      qualifier.toSql ++ "." ++ field.column.toSql ++ " = v." ++ field.column.toSql :=
  List.map_congr_left fun _ _ => equals_values _ _

variable {first : Record} {rest : List Record}

theorem batchFault?_eq_none (keyed : plan.IsKeyed) (carried : plan.entity.IsWritable first) :
    batchFault? plan.entity.primaryFields (knownFields plan.entity first) = none := by
  have found : (plan.entity.primaryFields.find? fun key =>
      !(knownFields plan.entity first).any fun field => field.name == key.name) = none := by
    rw [List.find?_eq_none]
    intro key member missing
    have known : key ∈ knownFields plan.entity first := mem_knownFields.2
      ⟨Entity.field?_of_mem keyed.distinct (List.mem_of_mem_filter member),
        carried.keyed key member⟩
    simp only [Bool.not_eq_true', List.any_eq_false] at missing
    exact missing key known (beq_self_eq_true key.name)
  obtain ⟨field, named, other, present⟩ := carried.assigned
  have unkeyed : ((knownFields plan.entity first).all Field.primary) = false := by
    rw [List.all_eq_false]
    exact ⟨field, mem_knownFields.2 ⟨named, present⟩, by simp [other]⟩
  unfold batchFault?
  rw [if_neg fun empty => keyed.keyed (List.isEmpty_iff.1 empty), found, unkeyed]
  rfl

theorem exists_updateBatch_iff (keyed : plan.IsKeyed) (carried : plan.entity.IsWritable first) :
    (∃ statement, plan.updateBatch (first :: rest) = .ok statement) ↔
      ∃ scope source returned, plan.Writable scope source returned := by
  constructor
  · rintro ⟨statement, updated⟩
    obtain ⟨_, _, -, -, scope, source, returned, qualifier, items, writable, -⟩ :=
      updateBatch_eq_ok.1 updated
    exact ⟨scope, source, returned, writable⟩
  · rintro ⟨scope, source, returned, writable⟩
    obtain ⟨qualifier, qualified⟩ := writable.exists_qualifier
    have filter : Expr.formatAll scope plan.filter = .ok [] := by
      rw [keyed.unfiltered]
      rfl
    exact ⟨_, updateBatch_eq_ok.2 ⟨first, rest, rfl, batchFault?_eq_none keyed carried, scope,
      source, returned, qualifier, [], writable, qualified, filter, rfl⟩⟩

theorem castSlot_eq {field : Field} (present : record.has field.name = true) :
    castSlot record field = castCell (field, record.valueOf field) := by
  unfold castSlot
  rw [slot_eq_bound present]
  rfl

theorem values_castCell (entry : Field × Json) : (castCell entry).values = [entry.2] := by
  unfold castCell
  split <;> simp [Fragment.bound]

theorem exists_updatedBatch (keyed : plan.IsKeyed) {records : List Record}
    (shares : plan.entity.SharesFields records)
    (updated : plan.updateBatch records = .ok statement) :
    ∃ table, plan.UpdatesBatch table statement ∧
      List.Forall₂ plan.entity.Assigns table.rows records := by
  obtain ⟨first, rest, rfl, -, scope, source, returned, qualifier, items, writable, qualified,
    given, made⟩ := updateBatch_eq_ok.1 updated
  rw [keyed.unfiltered] at given
  obtain rfl := Except.ok.inj given
  have distinct := shares.distinct first List.mem_cons_self
  have tuples : (ValueTable.ofRecords plan.entity first distinct (first :: rest)).fragment
      castCell = .joined ", " ((first :: rest).map
        (updateTuple (knownFields plan.entity first))) :=
    ValueTable.fragment_ofRecords fun record member field known =>
      castSlot_eq (ValueTable.has_of_shares shares member known)
  have values := ValueTable.values_fragment castCell values_castCell
    (ValueTable.ofRecords plan.entity first distinct (first :: rest))
  have unextended : (Junction.and.combine []).after " AND " = .empty := rfl
  refine ⟨.ofRecords plan.entity first distinct (first :: rest),
    ⟨scope, source, qualifier, returned, writable, qualified, ?_, ?_⟩,
    ValueTable.assigns_ofRecords shares⟩
  · rw [tuples, made, unextended, Fragment.append_empty, map_batchAssignment, map_batchKey]
    rfl
  · rw [← values, tuples, made]
    refine (Fragment.values_joined " " ?_).trans ?_
    · simp [returningClause]
    · simp [returningClause, unextended]

end Batch

variable {records : List Record}

theorem exists_updateMany_iff (keyed : plan.IsKeyed) (sized : plan.settings.batchSize ≠ some 0)
    (given : records ≠ []) (carried : ∀ record ∈ records, plan.entity.IsWritable record) :
    (∃ statements, plan.updateMany records = .ok statements) ↔
      ∃ scope source returned, plan.Writable scope source returned := by
  obtain ⟨batched, cut⟩ := exists_batches sized records
  obtain ⟨rfl, fills⟩ := batches_of_ok cut
  -- Every batch has a first record, and with it a statement as soon as rows can be written.
  have each : ∀ batch ∈ batched, (∃ statement, plan.updateBatch batch = .ok statement) ↔
      ∃ scope source returned, plan.Writable scope source returned := by
    intro batch member
    have counted := fills.positive batch.length (List.mem_map_of_mem member)
    cases batch with
    | nil => exact absurd counted (by simp)
    | cons first rest =>
        have inside := List.mem_flatten.2 ⟨_, member, List.mem_cons_self⟩
        exact exists_updateBatch_iff keyed (carried first inside)
  constructor
  · rintro ⟨statements, updated⟩
    obtain ⟨_, -, started⟩ := bind_eq_ok.1 updated
    obtain ⟨others, again, written⟩ := bind_eq_ok.1 started
    obtain rfl := Except.ok.inj (cut.symm.trans again)
    cases batched with
    | nil => exact absurd rfl given
    | cons batch more =>
        obtain ⟨statement, _, updatedFirst, -⟩ :=
          List.forall₂_cons_left_iff.1 (mapM_eq_ok.1 written)
        exact (each batch List.mem_cons_self).1 ⟨statement, updatedFirst⟩
  · rintro ⟨scope, source, returned, writable⟩
    obtain ⟨statements, written⟩ := exists_mapM fun batch member =>
      (each batch member).2 ⟨scope, source, returned, writable⟩
    exact ⟨statements, bind_eq_ok.2 ⟨scope, writable.resolved, bind_eq_ok.2 ⟨_, cut, written⟩⟩⟩

/-- Records that carry their key are updated in batches exactly when each of them can be updated by
itself, and then every record has one tuple in one statement, which gives the same fields the same
values and finds the row by the same key. -/
theorem updateMany_agrees (keyed : plan.IsKeyed) (sized : plan.settings.batchSize ≠ some 0)
    (given : records ≠ []) (shares : plan.entity.SharesFields records)
    (carried : ∀ record ∈ records, plan.entity.IsWritable record) :
    ((∃ statements, plan.updateMany records = .ok statements) ↔
        ∀ record ∈ records, ∃ statement, plan.update record = .ok statement) ∧
      ∀ statements, plan.updateMany records = .ok statements →
        ∃ tables, List.Forall₂ plan.UpdatesBatch tables statements ∧
          Fills plan.settings.batchSize (tables.map ValueTable.size) ∧
          List.Forall₂ plan.UpdatesAlike (tables.flatMap ValueTable.rows) records := by
  have many := exists_updateMany_iff keyed sized given carried
  have single : ∀ record ∈ records, (∃ statement, plan.update record = .ok statement) ↔
      ∃ scope source returned, plan.Writable scope source returned := fun record member =>
    exists_update_iff keyed (shares.distinct record member) (carried record member)
  refine ⟨?_, fun statements updated => ?_⟩
  · rw [many]
    constructor
    · exact fun writable record member => (single record member).2 writable
    · intro each
      obtain ⟨record, member⟩ := List.exists_mem_of_ne_nil records given
      exact (single record member).1 (each record member)
  · have writable := many.1 ⟨statements, updated⟩
    obtain ⟨_, -, started⟩ := bind_eq_ok.1 updated
    obtain ⟨batched, cut, written⟩ := bind_eq_ok.1 started
    obtain ⟨rfl, fills⟩ := batches_of_ok cut
    obtain ⟨tables, tablesWritten, sizes, assigned⟩ :=
      ValueTable.exists_of_batches shares (exists_updatedBatch keyed) written
    rw [← sizes] at fills
    have alone : ∀ record ∈ batched.flatten, ∀ row, plan.entity.Assigns row record →
        plan.UpdatesAlike row record := by
      intro record member row assigns
      obtain ⟨statement, updatedAlone⟩ := (single record member).2 writable
      exact updatesAlike_of_update keyed (shares.distinct record member) (carried record member)
        assigns updatedAlone
    have paired := (List.forall₂_and_left _ _).2 ⟨alone, assigned.flip⟩
    exact ⟨tables, tablesWritten, fills,
      (paired.imp fun record row pair => pair.1 row pair.2).flip⟩

end Agreement

end Plan

namespace Sample

/-- Members of teams, each with a role. -/
def membership : Entity :=
  ⟨2, "Membership", some ⟨"membership", by decide, by decide⟩, none, .identity,
    [⟨"team", ⟨"team", by decide, by decide⟩, .integer, true, false, true, none⟩,
      ⟨"role", ⟨"role", by decide, by decide⟩, .text, false, false, false, none⟩,
      ⟨"member", ⟨"member", by decide, by decide⟩, .integer, true, false, true, none⟩]⟩

def memberships : Plan :=
  { accountsInPairs with
    entity := membership
    tableAlias := none
    columns := [.ofField "role"] }

/-- Roles of three members, with the key before, around and after the role. -/
def roles : List Record :=
  [[("team", .integer 1), ("member", .integer 2), ("role", .string "x")],
    [("member", .integer 3), ("role", .string "y"), ("team", .integer 1)],
    [("role", .string "z"), ("team", .integer 2), ("member", .integer 3)]]

theorem has_of_roles : ∀ name ∈ membership.fieldNames, ∀ record ∈ roles,
    Record.has record name = true := by
  decide

theorem sharesFields_roles : membership.SharesFields roles := .of_complete (by decide) has_of_roles

theorem isWritable_of_roles {record : Record} (member : record ∈ roles) :
    membership.IsWritable record where
  keyed field primary :=
    has_of_roles field.name (List.mem_map_of_mem (List.mem_of_mem_filter primary)) record member
  assigned := ⟨⟨"role", ⟨"role", by decide, by decide⟩, .text, false, false, false, none⟩, rfl, rfl,
    has_of_roles "role" (by decide) record member⟩

end Sample

theorem Plan.updateMany_agrees_of_roles :
    ∃ statements tables, Sample.memberships.updateMany Sample.roles = .ok statements ∧
      List.Forall₂ Sample.memberships.UpdatesBatch tables statements ∧
      Plan.Fills (some 2) (tables.map ValueTable.size) ∧
      List.Forall₂ Sample.memberships.UpdatesAlike (tables.flatMap ValueTable.rows)
        Sample.roles := by
  have keyed : Sample.memberships.IsKeyed := ⟨by decide, by decide, rfl⟩
  have agrees := Plan.updateMany_agrees keyed (by decide) (List.cons_ne_nil _ _)
    Sample.sharesFields_roles fun _ => Sample.isWritable_of_roles
  have single : ∀ record ∈ Sample.roles, ∃ statement,
      Sample.memberships.update record = .ok statement := by
    simp only [Sample.roles, List.forall_mem_cons]
    exact ⟨⟨_, rfl⟩, ⟨_, rfl⟩, ⟨_, rfl⟩, List.forall_mem_nil _⟩
  obtain ⟨statements, updated⟩ := agrees.1.2 single
  obtain ⟨tables, written, fills, alike⟩ := agrees.2 statements updated
  exact ⟨statements, tables, updated, written, fills, alike⟩

end EntityQuery

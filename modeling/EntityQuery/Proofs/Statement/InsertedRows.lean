import EntityQuery.Proofs.Execution.Validation
import EntityQuery.Proofs.Statement.ValueTable

/-!
# Inserted rows

Rows that name the same fields are inserted batch by batch.  Each statement lists the fields in the
order of its own first row and has one tuple for each row of its batch, so that over all statements
every row is written once, in order, with all of its fields.
-/

namespace EntityQuery.Plan

open Outcome

/-- A placeholder for the value of a field. -/
def boundCell (entry : Field × Json) : Fragment := .bound entry.2

/-- The statement inserts the rows of a table, and its values are the tuples of the table before
those of the returned columns. -/
structure Inserts (plan : Plan) (table : ValueTable plan.entity) (statement : Statement) :
    Prop where
  fields : table.fields ≠ []
  written : ∃ scope source returned, plan.Writable scope source returned ∧
    statement = .ofFragment
      (.clauses
        [.ofText ("INSERT INTO " ++ source ++ " (" ++
            ", ".intercalate (table.fields.map fun field => field.column.toSql) ++ ")"),
          .ofText "VALUES " ++ table.fragment boundCell, returningClause returned])
      (OutputColumn.aliases returned) ∧
    statement.values = table.tuples.flatten ++ (OutputColumn.list returned).values

variable {plan : Plan} {statement : Statement}

theorem exists_inserted {rows : List Record} (shares : plan.entity.SharesFields rows)
    (inserted : plan.insert rows = .ok statement) :
    ∃ table, plan.Inserts table statement ∧ List.Forall₂ plan.entity.Assigns table.rows rows := by
  obtain ⟨first, rest, rfl, known, scope, source, returned, writable, made⟩ :=
    insert_eq_ok.1 inserted
  have distinct := shares.distinct first List.mem_cons_self
  have tuples : (ValueTable.ofRecords plan.entity first distinct (first :: rest)).fragment
      boundCell = .joined ", " ((first :: rest).map
        (insertTuple (knownFields plan.entity first))) :=
    ValueTable.fragment_ofRecords fun record member field fieldKnown =>
      slot_eq_bound (ValueTable.has_of_shares shares member fieldKnown)
  have values := ValueTable.values_fragment boundCell (fun _ => rfl)
    (ValueTable.ofRecords plan.entity first distinct (first :: rest))
  refine ⟨.ofRecords plan.entity first distinct (first :: rest),
    ⟨known, scope, source, returned, writable, ?_, ?_⟩, ValueTable.assigns_ofRecords shares⟩
  · rw [tuples]
    exact made
  · rw [← values, tuples, made]
    refine (Fragment.values_joined " " ?_).trans ?_
    · simp [returningClause]
    · simp [returningClause]

/-- Inserted in batches, every row is in exactly one tuple of one statement. -/
theorem rows_of_inserts {rows : List Record} {statements : List Statement}
    (shares : plan.entity.SharesFields rows) (inserted : plan.inserts rows = .ok statements) :
    ∃ tables, List.Forall₂ plan.Inserts tables statements ∧
      Fills plan.settings.batchSize (tables.map ValueTable.size) ∧
      List.Forall₂ plan.entity.Assigns (tables.flatMap ValueTable.rows) rows := by
  obtain ⟨_, -, cut⟩ := bind_eq_ok.1 inserted
  obtain ⟨batched, given, each⟩ := bind_eq_ok.1 cut
  obtain ⟨rfl, fills⟩ := batches_of_ok given
  obtain ⟨tables, written, sizes, assigned⟩ :=
    ValueTable.exists_of_batches shares exists_inserted each
  rw [← sizes] at fills
  exact ⟨tables, written, fills, assigned⟩

end EntityQuery.Plan

namespace EntityQuery

namespace Sample

/-- Three accounts, with their fields in different orders and one name that is no field. -/
def shuffledNotes : List Record :=
  [noteRow 1 "x", [("note", .string "y"), ("age", .null), ("id", .integer 2)],
    [("note", .string "z"), ("id", .integer 3)]]

theorem sharesFields_shuffledNotes : account.SharesFields shuffledNotes :=
  .of_complete (by decide) (by decide)

theorem inserts_shuffledNotes :
    accountsInPairs.inserts shuffledNotes =
      .ok [pairStatement [.integer 1, .string "x", .integer 2, .string "y"],
        ⟨"INSERT INTO account AS \"a?\" (\"note?\", id) VALUES (?, ?) RETURNING \"a?\".\"note?\"",
          [.string "z", .integer 3], ["note"]⟩] := by
  have pairs : Plan.chunks 1 shuffledNotes = [shuffledNotes.take 2, shuffledNotes.drop 2] := by
    simp [Plan.chunks, shuffledNotes]
  have batched : accountsInPairs.batches shuffledNotes =
      .ok [shuffledNotes.take 2, shuffledNotes.drop 2] :=
    congrArg Except.ok pairs
  simp only [Plan.inserts, batched]
  rfl

end Sample

/-- The second statement lists the fields in the order of the third account. -/
theorem Plan.rows_of_inserts_shuffledNotes :
    ∃ statements tables, Sample.accountsInPairs.inserts Sample.shuffledNotes = .ok statements ∧
      List.Forall₂ Sample.accountsInPairs.Inserts tables statements ∧
      Plan.Fills (some 2) (tables.map ValueTable.size) ∧
      List.Forall₂ Sample.account.Assigns (tables.flatMap ValueTable.rows)
        Sample.shuffledNotes := by
  obtain ⟨tables, written, fills, assigned⟩ :=
    Plan.rows_of_inserts Sample.sharesFields_shuffledNotes Sample.inserts_shuffledNotes
  exact ⟨_, tables, Sample.inserts_shuffledNotes, written, fills, assigned⟩

end EntityQuery

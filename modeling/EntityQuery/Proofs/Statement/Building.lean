import EntityQuery.Proofs.Plan.Building
import EntityQuery.Proofs.Statement.Parts
import EntityQuery.Proofs.Statement.Resolution

/-!
# Errors of building

Whatever a plan is asked to format, it fails with the error of the first requirement that is not
met.  The requirements of statements are those of their clauses in order, after what is required of
the rows that they write.
-/

namespace EntityQuery

open Outcome

namespace Requirement

variable {requirement : Requirement} {requirements : List Requirement} {error : Error}

/-- The first requirement that is not met. -/
def firstUnmet? (requirements : List Requirement) : Option Requirement :=
  requirements.find? fun requirement => !decide requirement.IsMet

/-- Whether it is a configuration error if the requirement is not met.  Names and rows are
validated instead. -/
def isConfigured : Requirement → Bool
  | .table _ | .field _ _ | .link _ _ _ | .columnAlias _ _ | .batchSize _ => true
  | .name _ _ _ | .lockedTable _ | .rows _ _ => false

/-- The error is that of the requirement.  It is a configuration error unless it is one of
validation, which is up to the requirement. -/
structure Explains (requirement : Requirement) (error : Error) : Prop where
  raised : requirement.Raises error
  configured : error.isConfiguration = requirement.isConfigured
  validated : error.isConfiguration = false ↔ error.kind = "Validation"

theorem Raises.explains (raised : requirement.Raises error) : requirement.Explains error := by
  refine ⟨raised, ?_, ?_⟩
  · cases raised <;> rfl
  · cases raised <;> simp [Error.isConfiguration, Error.kind]

theorem FirstRaises.exists_firstUnmet (raised : FirstRaises requirements error) :
    ∃ requirement, firstUnmet? requirements = some requirement ∧ requirement.Raises error := by
  induction raised with
  | here raised =>
      exact ⟨_, List.find?_cons_of_pos (by simpa using raised.not_isMet), raised⟩
  | later met _ ih =>
      obtain ⟨requirement, found, raised⟩ := ih
      exact ⟨requirement, (List.find?_cons_of_neg (by simpa using met)).trans found, raised⟩

end Requirement

namespace Requires

variable {α : Type} {own : List Requirement} {computed : Except Error α}

/-- What is known to be met need not be required. -/
theorem ofMet (requires : Requires own computed) (met : ∀ requirement ∈ own, requirement.IsMet) :
    Requires [] computed := by
  obtain ⟨value, rfl⟩ := requires.exists_ok_iff.2 met
  exact ok value

/-- The step succeeds if all requirements are met; else it fails with the error of the first one
that is not. -/
theorem outcome (requires : Requires own computed) :
    match Requirement.firstUnmet? own with
    | none => ∃ value, computed = .ok value
    | some requirement => ∃ error, computed = .error error ∧ requirement.Explains error := by
  cases computed with
  | ok value =>
      have met : Requirement.firstUnmet? own = none :=
        List.find?_eq_none.2 fun requirement member => by simpa using requires requirement member
      rw [met]
      exact ⟨value, rfl⟩
  | error error =>
      obtain ⟨requirement, found, raised⟩ := Requirement.FirstRaises.exists_firstUnmet requires
      rw [found]
      exact ⟨error, rfl, raised.explains⟩

theorem exists_ok_of_met (requires : Requires own computed)
    (met : Requirement.firstUnmet? own = none) : ∃ value, computed = .ok value := by
  have outcome := requires.outcome
  rwa [met] at outcome

theorem discard (requires : Requires own computed) : Requires own (discard computed) := by
  cases computed with
  | ok value => exact requires
  | error error => exact requires

end Requires

theorem Expr.requirementsAll_eq_flatMap (scope : NamedScope) (items : List Expr) :
    Expr.requirementsAll scope items = items.flatMap (Expr.requirements scope) := by
  induction items with
  | nil => rfl
  | cons item rest ih => rw [Expr.requirementsAll, List.flatMap_cons, ih]

namespace Plan

variable {plan : Plan} {scope : Scope}

theorem requires_scope (plan : Plan) : Requires plan.scopeRequirements plan.scope :=
  Scope.requires_ofNames plan.entity plan.tableAlias

theorem named_of_scope (resolved : plan.scope = .ok scope) : scope.named = plan.namedScope :=
  Scope.named_of_ofNames resolved

section Clauses

variable (resolved : plan.scope = .ok scope)

include resolved

theorem requires_source : Requires (plan.clauseRequirements .source) scope.source := by
  have requires := scope.requires_source
  rwa [entity_of_scope resolved] at requires

theorem requires_fromClause : Requires (plan.clauseRequirements .fromClause) (fromClause scope) :=
  (requires_source resolved).map

theorem requires_outputColumns :
    Requires (plan.clauseRequirements .columns) (plan.outputColumns scope) := by
  rw [clauseRequirements, ← named_of_scope resolved]
  exact Column.requires_formatAll scope none plan.columns

theorem requires_joinedTables :
    Requires (plan.clauseRequirements .joinClauses) (plan.joinedTables scope) := by
  rw [clauseRequirements, ← named_of_scope resolved]
  exact Join.requires_formatAll scope plan.joins

theorem requires_filter :
    Requires (plan.clauseRequirements .filter) (Expr.formatAll scope plan.filter) := by
  rw [clauseRequirements, ← named_of_scope resolved]
  exact Expr.requires_formatAll scope plan.filter

theorem requires_clause (request : ClauseRequest) :
    Requires (plan.clauseRequirements request) (plan.clause scope request) := by
  cases request with
  | table => exact plan.entity.requires_qualifiedTable.map
  | source => exact (requires_source resolved).map
  | fromClause => exact (requires_fromClause resolved).map
  | columns | returning => exact (requires_outputColumns resolved).map
  | joinClauses | joinColumns => exact (requires_joinedTables resolved).map
  | filter => exact (requires_filter resolved).map
  | groupBy =>
      rw [clauseRequirements, ← named_of_scope resolved]
      exact Clause.requires_groupBy scope plan.settings
  | having =>
      rw [clauseRequirements, ← named_of_scope resolved]
      exact (Expr.requires_formatAll scope plan.having).map
  | orderBy =>
      rw [clauseRequirements, ← named_of_scope resolved]
      exact Clause.requires_orderBy scope plan.settings
  | locking => exact (Clause.requires_locking plan.settings.locking).map

end Clauses

theorem requires_sourceFragment (source : InsertSource) :
    Requires source.requirements (sourceFragment source) := by
  cases source with
  | query plan => exact (Plan.requires_select plan).map
  | raw fragment => exact Requires.ok fragment

theorem isMet_column (resolved : plan.scope = .ok scope) {source name : String}
    (sourced : scope.source = .ok source) (known : name ∈ plan.entity.fieldNames) :
    ∀ requirement ∈ scope.named.column name, requirement.IsMet := by
  have table := (requires_source resolved).exists_ok_iff.1 ⟨source, sourced⟩
  rw [named_of_scope resolved, NamedScope.column, NamedScope.qualifier]
  refine List.forall_mem_cons.2 ⟨known, ?_⟩
  split_ifs
  · exact List.forall_mem_nil _
  · exact table

/-- The primary key of a record is restricted by fields of the entity, so that it requires no more
than the table that has been found. -/
theorem requires_primaryFilter (resolved : plan.scope = .ok scope) {source : String}
    (sourced : scope.source = .ok source) (record : Record) :
    Requires [] (plan.primaryFilter scope record) := by
  unfold primaryFilter
  dsimp only
  split_ifs with unkeyed
  · exact Requires.ok _
  refine Requires.andThen (Requires.ofMet (Expr.requires_format scope _) ?_) fun _ _ =>
    Requires.ok _
  rw [Grouping.toExpr, Grouping.equalsAll, Expr.requirements, Expr.requirementsAll_eq_flatMap]
  refine List.forall_mem_flatMap.2 (List.forall_mem_map.2 (List.forall_mem_map.2 ?_))
  intro field member
  have column := isMet_column resolved sourced (List.mem_map_of_mem (List.mem_of_mem_filter member))
  simp only [Expr.requirements, Condition.equalTo, Condition.requirements, Target.requirements]
  split
  · simpa [Expr.requirements] using column
  · simpa [Expr.requirements] using column

theorem requires_updateFilter (resolved : plan.scope = .ok scope) {source : String}
    (sourced : scope.source = .ok source) (record : Record) :
    Requires (plan.clauseRequirements .filter) (plan.updateFilter scope record) := by
  unfold updateFilter
  split_ifs with unfiltered
  · rw [clauseRequirements, List.isEmpty_iff.1 unfiltered]
    exact requires_primaryFilter resolved sourced record
  · exact (requires_filter resolved).map

section Statements

variable (plan : Plan)

theorem requires_selectStatement : Requires (plan.statementRequirements .select) plan.select := by
  have same : plan.statementRequirements .select = plan.requirements := by
    cases plan
    simp [statementRequirements, StatementRequest.rowsRequirements, bodyRequirements,
      scopeRequirements, clauseRequirements, namedScope, requirements]
  rw [same]
  exact plan.requires_select

theorem requires_count : Requires (plan.statementRequirements .count) plan.count := by
  simp only [statementRequirements, StatementRequest.rowsRequirements, bodyRequirements,
    List.flatMap_cons, List.flatMap_nil, List.append_nil]
  refine plan.requires_scope.bind fun scope resolved => ?_
  refine (requires_joinedTables resolved).bind fun _ _ => ?_
  refine (requires_fromClause resolved).bind fun _ _ => ?_
  exact (requires_filter resolved).map.map

theorem requires_delete : Requires (plan.statementRequirements .delete) plan.delete := by
  simp only [statementRequirements, StatementRequest.rowsRequirements, bodyRequirements,
    List.flatMap_cons, List.flatMap_nil, List.append_nil]
  refine plan.requires_scope.bind fun scope resolved => ?_
  refine (requires_fromClause resolved).bind fun _ _ => ?_
  refine (requires_outputColumns resolved).bind fun _ _ => ?_
  exact (requires_filter resolved).map.map

theorem requires_insertFrom (source : InsertSource) :
    Requires (plan.statementRequirements (.insertFrom source)) (plan.insertFrom source) := by
  simp only [statementRequirements, StatementRequest.rowsRequirements, bodyRequirements,
    List.append_nil, List.append_assoc]
  refine plan.requires_scope.bind fun scope resolved => ?_
  refine (requires_source resolved).bind fun _ _ => ?_
  refine (requires_sourceFragment source).bind fun _ _ => ?_
  exact (requires_outputColumns resolved).map

theorem requires_insert (rows : List Record) :
    Requires (plan.statementRequirements (.insert rows)) (plan.insert rows) := by
  simp only [statementRequirements, StatementRequest.rowsRequirements, bodyRequirements,
    List.flatMap_cons, List.flatMap_nil, List.append_nil, List.append_assoc]
  refine plan.requires_scope.bind fun scope resolved => ?_
  cases rows with
  | nil => exact .here .rows
  | cons row rest =>
      simp only [Entity.insertFault?]
      split_ifs
      · exact .here .rows
      refine Requires.prepend (List.forall_mem_singleton.2 rfl) ?_
      refine (requires_source resolved).bind fun _ _ => ?_
      exact (requires_outputColumns resolved).map

theorem requires_update (record : Record) :
    Requires (plan.statementRequirements (.update record)) (plan.update record) := by
  rw [update_eq]
  simp only [statementRequirements, StatementRequest.rowsRequirements, bodyRequirements,
    List.flatMap_cons, List.flatMap_nil, List.append_nil, List.append_assoc]
  refine plan.requires_scope.bind fun scope resolved => ?_
  split_ifs
  · exact .here .rows
  refine Requires.prepend (List.forall_mem_singleton.2 rfl) ?_
  refine (requires_source resolved).bind fun source sourced => ?_
  refine (requires_updateFilter resolved sourced record).bind fun _ _ => ?_
  exact (requires_outputColumns resolved).map

theorem requires_updateBatch (records : List Record) :
    Requires (plan.statementRequirements (.updateBatch records)) (plan.updateBatch records) := by
  simp only [statementRequirements, StatementRequest.rowsRequirements, bodyRequirements,
    List.flatMap_cons, List.flatMap_nil, List.append_nil, List.append_assoc]
  refine plan.requires_scope.bind fun scope resolved => ?_
  cases records with
  | nil => exact .here .rows
  | cons record rest =>
      simp only [Entity.updateFault?]
      split
      case h_1 fault given =>
          rw [given]
          exact .here .rows
      case h_2 given =>
          rw [given, ← named_of_scope resolved]
          refine Requires.prepend (List.forall_mem_singleton.2 rfl) ?_
          refine scope.requires_qualifier.bind fun _ _ => ?_
          refine (requires_source resolved).bind fun _ _ => ?_
          refine (requires_filter resolved).bind fun _ _ => ?_
          exact (requires_outputColumns resolved).map

theorem requires_statement (request : StatementRequest) :
    Requires (plan.statementRequirements request) (plan.statement request) := by
  cases request with
  | select => exact plan.requires_selectStatement
  | count => exact plan.requires_count
  | insert rows => exact plan.requires_insert rows
  | insertFrom source => exact plan.requires_insertFrom source
  | update record => exact plan.requires_update record
  | updateBatch records => exact plan.requires_updateBatch records
  | delete => exact plan.requires_delete

theorem requires_batches {Row : Type} (rows : List Row) :
    Requires (plan.batchesRequirements rows) (plan.batches rows) := by
  unfold batches batchesRequirements
  split_ifs with none
  · exact Requires.ok []
  have sized : Requires [.batchSize plan.settings.batchSize] plan.batchSize := by
    unfold batchSize
    split
    case h_1 zero =>
        rw [zero]
        exact .here .batchSize
    case h_2 positive => exact List.forall_mem_singleton.2 positive
  refine sized.andThen fun size _ => ?_
  cases size with
  | none => exact Requires.ok _
  | some size => exact Requires.ok _

theorem requires_inBatches (rows : List Record) (request : List Record → StatementRequest) :
    Requires (plan.inBatches rows request) (do
      let _ ← plan.scope
      let batches ← plan.batches rows
      batches.mapM fun batch => plan.statement (request batch)) := by
  rw [inBatches, List.append_assoc]
  refine plan.requires_scope.bind fun _ _ => (plan.requires_batches rows).bind ?_
  intro batches split
  rw [batched, split]
  exact Requires.mapM (fun batch => plan.requires_statement (request batch)) batches

/-- Whatever is asked for, building it takes its requirements and nothing else. -/
theorem requires_build (request : BuildRequest) :
    Requires (plan.buildRequirements request) (plan.build request) := by
  cases request with
  | scope => exact plan.requires_scope.discard
  | clause request =>
      exact plan.requires_scope.bind fun _ resolved => (requires_clause resolved request).discard
  | statement request => exact (plan.requires_statement request).discard
  | batches rows =>
      exact plan.requires_scope.bind fun _ _ => (plan.requires_batches rows).discard
  | statements request =>
      cases request with
      | inserts rows => exact (plan.requires_inBatches rows .insert).discard
      | updateMany records => exact (plan.requires_inBatches records .updateBatch).discard

end Statements

end Plan

end EntityQuery

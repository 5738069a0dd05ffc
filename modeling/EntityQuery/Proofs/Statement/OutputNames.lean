import EntityQuery.Proofs.Ident.Written
import EntityQuery.Proofs.Row.Keyed
import EntityQuery.Proofs.Statement.Listing

/-!
# Names of result columns

SQL names a column of the result by what its item ends in: the alias behind AS or, without one, the
bare name of the column.  A field that is listed under its own name has no AS, so its column must
have that name too for rows by name to be the rows by position.
-/

namespace EntityQuery

open Execution Outcome

/-- The name that SQL gives to the column of a result with this item. -/
def Fragment.outputName (item : Fragment) : String := Ident.lastName item.text

/-- Every declared field has a column of its own name, whether it is given or follows. -/
def EntityDeclaration.NamesColumns (declaration : EntityDeclaration) : Prop :=
  ∀ field ∈ declaration.fields,
    field.column.getD (declaration.naming.columnFor field.name) = field.name

theorem EntityDeclaration.namesColumns_iff {declaration : EntityDeclaration} {entity : Entity}
    {identity : Nat} (built : declaration.build identity = .ok entity) :
    declaration.NamesColumns ↔ ∀ field ∈ entity.fields, field.column.name = field.name := by
  unfold NamesColumns
  have resolved := (of_build built).2
  generalize declaration.fields = declared at resolved
  generalize entity.fields = fields at resolved
  induction resolved with
  | nil => exact iff_of_true (List.forall_mem_nil _) (List.forall_mem_nil _)
  | cons given _ ih =>
      obtain ⟨named, -, column⟩ := of_resolve given
      rw [List.forall_mem_cons, List.forall_mem_cons, named, column]
      exact and_congr Iff.rfl ih

namespace ResultColumn

/-- The entity whose fields the column is read from. -/
def entity (plan : Plan) (result : ResultColumn) : Entity :=
  match result.join with
  | some join => join.plan.entity
  | none => plan.entity

/-- A field that is listed under its own name has a column of that name. -/
def KeepsName (plan : Plan) (result : ResultColumn) : Prop :=
  ∀ field, result.column.source = .field result.outputAlias →
    (result.entity plan).field? result.outputAlias = some field →
    field.column.name = result.outputAlias

theorem keepsName_of_fields {plan : Plan} {result : ResultColumn}
    (named : ∀ field ∈ (result.entity plan).fields, field.column.name = field.name) :
    result.KeepsName plan := by
  intro field _ found
  rw [named field (List.mem_of_find?_eq_some found), Entity.field?_name found]

end ResultColumn

section Items

variable {plan : Plan} {scope : Scope}

theorem Plan.ReadsIn.entity_eq {result : ResultColumn} (reads : plan.ReadsIn result.join scope) :
    scope.entity = result.entity plan := by
  obtain ⟨join, column⟩ := result
  cases reads with
  | own resolved => exact Plan.entity_of_scope resolved
  | joined => rfl

theorem Ident.lastName_qualified (qualifier column : Ident) :
    lastName (qualifier.qualified column) = column.name :=
  lastName_append (qualifier.toSql ++ ".") column (by simp; decide)

theorem Fragment.outputName_labelled (shown : Fragment) (label : Ident) :
    (shown ++ .ofText (" AS " ++ label.toSql)).outputName = label.name := by
  unfold outputName
  rw [text_append, text_ofText, ← String.append_assoc]
  exact Ident.lastName_append (shown.text ++ " AS ") label (by simp; decide)

/-- The item of a column is named by its alias exactly if the column keeps its name. -/
theorem ResultColumn.outputName_eq_iff {result : ResultColumn} {item : Fragment}
    (listed : result.ListedAs plan item) :
    item.outputName = result.outputAlias ↔ result.KeepsName plan := by
  obtain ⟨scope, reads, lists⟩ := listed
  cases lists with
  | bare own shown =>
      rw [own] at shown
      cases shown with
      | @field _ field qualifier found qualified =>
          rw [reads.entity_eq] at found
          have named : (Fragment.ofText (qualifier.qualified field.column)).outputName =
              field.column.name := Ident.lastName_qualified qualifier field.column
          rw [named]
          constructor
          · intro same other _ otherFound
            obtain rfl := Option.some.inj (found.symm.trans otherFound)
            exact same
          · intro keeps
            exact keeps field own found
  | labelled other shown named =>
      rw [Fragment.outputName_labelled, named]
      exact iff_of_true rfl fun _ own => absurd own other

/-- Names are the aliases, in order, exactly if every column keeps its name. -/
theorem ResultColumn.outputNames_eq_iff {results : List ResultColumn} {items : List Fragment}
    (listed : List.Forall₂ (ResultColumn.ListedAs plan) results items) :
    items.map Fragment.outputName = results.map outputAlias ↔
      ∀ result ∈ results, result.KeepsName plan := by
  induction listed with
  | nil => exact iff_of_true rfl (List.forall_mem_nil _)
  | cons first _ ih =>
      rw [List.map_cons, List.map_cons, List.cons_eq_cons, outputName_eq_iff first, ih,
        List.forall_mem_cons]

end Items

/-- The statement lists the items, which a COUNT has only one of. -/
def StatementRequest.Lists (request : StatementRequest) (plan : Plan) (statement : Statement)
    (items : List Fragment) : Prop :=
  match request with
  | .count => items = [.ofText "COUNT(*) AS count"] ∧ statement.aliases = ["count"] ∧
      ∃ after, statement.toFragment = .ofText "SELECT " ++ .intercalate ", " items ++
        .ofText " FROM " ++ after
  | request => plan.ListsColumns request statement items

/-- The session with one more reply to come first. -/
def Session.answering (session : Session) (rows : List Row) : Session :=
  { session with replies := .rows rows :: session.replies }

namespace Plan

variable {plan : Plan} {statement : Statement}

theorem exists_lists_of_count (counted : plan.count = .ok statement) :
    ∃ items, StatementRequest.count.Lists plan statement items := by
  obtain ⟨scope, -, rest⟩ := bind_eq_ok.1 counted
  obtain ⟨joined, -, rest⟩ := bind_eq_ok.1 rest
  obtain ⟨source, sourced, rest⟩ := bind_eq_ok.1 rest
  obtain ⟨filter, -, whole⟩ := bind_eq_ok.1 rest
  obtain ⟨table, -, kept⟩ := bind_eq_ok.1 sourced
  obtain rfl := pure_eq_ok.1 kept
  rw [← pure_eq_ok.1 whole]
  refine ⟨_, rfl, rfl, ?_⟩
  exact exists_after_from table _ (by simp)

theorem outcome_collect (plan : Plan) (verb : Verb) (statement : Statement) (session : Session)
    (rows : List Row) :
    outcome (plan.collect verb statement) (session.answering rows) =
      (rows.mapM (·.unzip statement.aliases), session) :=
  rfl

end Plan

namespace Query

/-- A row of a connection that returns the values in order, or under the names of their columns in
any order. -/
def NamesValues (names : List String) (values : List Json) (columns : Record) : Prop :=
  values.length = names.length ∧ columns.Perm (names.zip values)

/-- Result columns are named by their aliases exactly if every field that is listed under its own
name has a column of that name, as the fields of an entity have that is declared so.  With such
names, and distinct aliases that are not numbers of columns, it makes no difference whether rows
come back by position or by name. -/
theorem outputNames_of_statement {query : Query} {request : StatementRequest}
    {statement : Statement} (formatted : query.plan.statement request = .ok statement) :
    ∃ items, request.Lists query.plan statement items ∧
      (items.map Fragment.outputName = statement.aliases ↔
        ∀ result ∈ query.plan.resultColumns request, result.KeepsName query.plan) ∧
      (∀ result ∈ query.plan.resultColumns request,
        (∃ declaration identity, EntityDeclaration.build declaration identity =
          .ok (result.entity query.plan) ∧ declaration.NamesColumns) →
        result.KeepsName query.plan) ∧
      (items.map Fragment.outputName = statement.aliases → statement.aliases.Nodup →
        (∀ position < statement.aliases.length, toString position ∉ statement.aliases) →
        ∀ rows named, List.Forall₂ (NamesValues (items.map Fragment.outputName)) rows named →
        ∀ (verb : Verb) (session : Session),
          outcome (query.plan.collect verb statement) (session.answering (named.map .keyed)) =
            outcome (query.plan.collect verb statement)
              (session.answering (rows.map .positional))) := by
  have listing : ∃ items, request.Lists query.plan statement items ∧
      (items.map Fragment.outputName = statement.aliases ↔
        ∀ result ∈ query.plan.resultColumns request, result.KeepsName query.plan) := by
    by_cases counting : request = .count
    · subst counting
      obtain ⟨items, lists⟩ := Plan.exists_lists_of_count formatted
      refine ⟨items, lists, iff_of_true ?_ (List.forall_mem_nil _)⟩
      obtain ⟨rfl, aliased, -⟩ := lists
      rw [aliased]
      decide
    · obtain ⟨items, lists⟩ : ∃ items, query.plan.ListsColumns request statement items := by
        cases request with
        | select => exact Plan.exists_lists_of_select formatted
        | count => exact absurd rfl counting
        | _ => exact Plan.exists_lists_of_writes trivial formatted
      refine ⟨items, ?_, ?_⟩
      · cases request with
        | count => exact absurd rfl counting
        | _ => exact lists
      · rw [lists.aliased]
        exact ResultColumn.outputNames_eq_iff lists.listed
  obtain ⟨items, lists, namedAlike⟩ := listing
  refine ⟨items, lists, namedAlike, ?_, ?_⟩
  · rintro result - ⟨declaration, identity, built, named⟩
    exact ResultColumn.keepsName_of_fields ((EntityDeclaration.namesColumns_iff built).1 named)
  intro same distinct unnumbered rows named paired verb session
  rw [same] at paired
  have unzipped : (named.map Row.keyed).mapM (·.unzip statement.aliases) =
      (rows.map Row.positional).mapM (·.unzip statement.aliases) := by
    induction paired with
    | nil => rfl
    | cons pair _ ih =>
        rw [List.map_cons, List.map_cons, List.mapM_cons, List.mapM_cons, ih,
          Row.unzip_keyed distinct pair.1 unnumbered pair.2]
  rw [Plan.outcome_collect, Plan.outcome_collect, unzipped]

end Query

/-- Numbers and paths of pictures come back alike, however their columns are ordered by name. -/
theorem Query.outputNames_of_pictures :
    ∃ statement items, (Query.on Sample.picture).plan.statement .select = .ok statement ∧
      statement.sql = "SELECT picture.id, picture.path FROM picture" ∧
      StatementRequest.select.Lists (Query.on Sample.picture).plan statement items ∧
      items.map Fragment.outputName = ["id", "path"] ∧
      ∀ session : Session,
        outcome ((Query.on Sample.picture).plan.collect .fetch statement)
            (session.answering [.keyed [("path", .string "p"), ("id", .integer 1)]]) =
          outcome ((Query.on Sample.picture).plan.collect .fetch statement)
            (session.answering [.positional [.integer 1, .string "p"]]) := by
  obtain ⟨statement, formatted, text, aliased⟩ : ∃ statement,
      (Query.on Sample.picture).plan.statement .select = .ok statement ∧
      statement.sql = "SELECT picture.id, picture.path FROM picture" ∧
      statement.aliases = ["id", "path"] := ⟨_, rfl, rfl, rfl⟩
  obtain ⟨items, lists, named, -, alike⟩ := Query.outputNames_of_statement formatted
  have keeps : ∀ result ∈ (Query.on Sample.picture).plan.resultColumns .select,
      result.KeepsName (Query.on Sample.picture).plan := by
    have columns : (Query.on Sample.picture).plan.resultColumns .select =
        [⟨none, .ofField "id"⟩, ⟨none, .ofField "path"⟩] := rfl
    rw [columns]
    refine List.forall_mem_cons.2 ⟨fun field _ found => ?_, List.forall_mem_singleton.2
      fun field _ found => ?_⟩
    · exact (Option.some.inj (congrArg (Option.map fun held => held.column.name) found)).symm
    · exact (Option.some.inj (congrArg (Option.map fun held => held.column.name) found)).symm
  have same := named.2 keeps
  refine ⟨statement, items, formatted, text, lists, same.trans aliased, fun session => ?_⟩
  refine alike same (by rw [aliased]; decide) (by rw [aliased]; decide) [_] [_] ?_ .fetch session
  rw [same, aliased]
  exact .cons ⟨rfl, .swap _ _ _⟩ .nil

/-- The notes of accounts are in a column of another name, under which no alias finds them. -/
theorem Query.outputNames_of_notes :
    ∃ statement items, (Query.on Sample.account).plan.statement .select = .ok statement ∧
      statement.sql = "SELECT account.id, account.\"note?\" FROM account" ∧
      statement.aliases = ["id", "note"] ∧
      StatementRequest.select.Lists (Query.on Sample.account).plan statement items ∧
      items.map Fragment.outputName ≠ statement.aliases ∧
      (Row.keyed [("id", .integer 1), ("note?", .string "x")]).unzip statement.aliases =
        .error (.decode "note" .missingColumn) ∧
      (Row.positional [.integer 1, .string "x"]).unzip statement.aliases =
        .ok [("id", .integer 1), ("note", .string "x")] := by
  obtain ⟨statement, formatted, text, aliased⟩ : ∃ statement,
      (Query.on Sample.account).plan.statement .select = .ok statement ∧
      statement.sql = "SELECT account.id, account.\"note?\" FROM account" ∧
      statement.aliases = ["id", "note"] := ⟨_, rfl, rfl, rfl⟩
  obtain ⟨items, lists⟩ := Plan.exists_lists_of_select formatted
  refine ⟨statement, items, formatted, text, aliased, lists, fun same => ?_, ?_, ?_⟩
  · rw [lists.aliased] at same
    have keeps := (ResultColumn.outputNames_eq_iff lists.listed).1 same ⟨none, .ofField "note"⟩
      (List.mem_of_getElem? (i := 1) rfl)
    exact absurd (keeps _ rfl rfl) (by decide)
  · rw [aliased]
    rfl
  · rw [aliased]
    rfl

end EntityQuery

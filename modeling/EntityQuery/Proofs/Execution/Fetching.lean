import EntityQuery.Proofs.Execution.Sending
import EntityQuery.Proofs.Row.Nesting

/-!
# Fetched records

A fetched record has the columns of the plan under their own names and one entry for each join.
Names and aliases being distinct, this is so exactly when no join has a dot in its name: the object
of a join `a.b` is put together under `a`.
-/

namespace EntityQuery

open Outcome

namespace Plan

/-- The joins of the plan, each with its share of the values of a row. -/
def shares (plan : Plan) (values : List Json) : List (Join × List Json) :=
  Join.shares plan.joins (values.drop plan.columns.length)

/-- The record has each column of the plan under its own name and each join under the name of the
join. -/
structure Nests (plan : Plan) (values : List Json) (record : Record) : Prop where
  own : ∀ (index : Nat) (column : Column), plan.columns[index]? = some column →
    record.find? column.name = values[index]?
  joined : ∀ share ∈ plan.shares values,
    record.find? share.1.shownName = some (share.1.nested share.2)

/-- The columns and joins of the plan can be told apart by their names. -/
structure IsTold (plan : Plan) : Prop where
  selecting : ∀ join ∈ plan.joins, join.plan.columns ≠ []
  joins : (plan.joins.map Join.shownName).Nodup
  own : ∀ column ∈ plan.columns,
    '.' ∉ column.name.toList ∧ column.name ∉ plan.joins.map Join.shownName

/-- The record of a row: its own columns, then its joins. -/
def nested (plan : Plan) (values : List Json) : Record :=
  (plan.columns.map Column.name).zip values ++
    (plan.shares values).map fun share => (share.1.shownName, share.1.nested share.2)

variable {plan : Plan} {statement : Statement} {values : List Json} {record : Record}

theorem keys_nested (enough : plan.columns.length ≤ values.length) :
    (plan.nested values).keys =
      plan.columns.map Column.name ++ plan.joins.map Join.shownName := by
  unfold nested Record.keys
  rw [List.map_append, List.map_fst_zip (by simpa using enough), List.map_map,
    ← Join.map_shownName_shares plan.joins (values.drop plan.columns.length)]
  rfl

theorem keys_nested_nodup (told : plan.IsTold) (distinct : (plan.columns.map Column.name).Nodup)
    (enough : plan.columns.length ≤ values.length) : (plan.nested values).keys.Nodup := by
  rw [keys_nested enough]
  refine List.nodup_append.2 ⟨distinct, told.joins, ?_⟩
  rintro name member other named rfl
  obtain ⟨column, columnMember, rfl⟩ := List.mem_map.1 member
  exact (told.own column columnMember).2 named

theorem nests_nested (told : plan.IsTold) (distinct : (plan.columns.map Column.name).Nodup)
    (enough : plan.columns.length ≤ values.length) : plan.Nests values (plan.nested values) := by
  have keys := keys_nested_nodup told distinct enough
  constructor
  · intro index column located
    obtain ⟨within, columnAt⟩ := List.getElem?_eq_some_iff.1 located
    have bounded : index < values.length := within.trans_le enough
    rw [List.getElem?_eq_getElem bounded]
    refine Record.find?_of_mem keys (List.mem_append_left _ ?_)
    refine List.mem_iff_getElem.2 ⟨index, ?_, ?_⟩
    · rw [List.length_zip, List.length_map]
      exact lt_min within bounded
    · simp [columnAt]
  · intro share member
    exact Record.find?_of_mem keys (List.mem_append_right _ (List.mem_map.2 ⟨share, member, rfl⟩))

variable {own joined : List Json}

theorem nested_append (counted : own.length = plan.columns.length) :
    plan.nested (own ++ joined) = (plan.columns.map Column.name).zip own ++
      (Join.shares plan.joins joined).map fun share =>
        (share.1.shownName, share.1.nested share.2) := by
  have shared : plan.shares (own ++ joined) = Join.shares plan.joins joined := by
    rw [shares, ← counted, List.drop_left]
  have zipped : (plan.columns.map Column.name).zip (own ++ joined) =
      (plan.columns.map Column.name).zip own := by
    have apart : (plan.columns.map Column.name ++ []).zip (own ++ joined) =
        (plan.columns.map Column.name).zip own ++ [].zip joined :=
      List.zip_append (by rw [List.length_map, counted])
    rwa [List.append_nil, List.zip_nil_left, List.append_nil] at apart
  rw [nested, shared, zipped]

/-- With no dot in the name of a join, the values of the plan's own columns and those of its joins
give the record of both. -/
theorem unzip_append (told : plan.IsTold)
    (plain : ∀ join ∈ plan.joins, '.' ∉ join.shownName.toList)
    (distinct : (plan.columns.map Column.name ++ plan.joins.flatMap Join.aliases).Nodup)
    (counted : own.length = plan.columns.length)
    (full : joined.length = (plan.joins.flatMap Join.aliases).length) :
    (Row.positional (own ++ joined)).unzip
        (plan.columns.map Column.name ++ plan.joins.flatMap Join.aliases) =
      .ok (plan.nested (own ++ joined)) := by
  obtain ⟨ownDistinct, joinedDistinct, -⟩ := List.nodup_append.1 distinct
  have enough : plan.columns.length ≤ (own ++ joined).length := by
    rw [List.length_append, counted]
    exact Nat.le_add_right _ _
  have ownKeys : Record.keys ((plan.columns.map Column.name).zip own) =
      plan.columns.map Column.name :=
    List.map_fst_zip (by rw [List.length_map, counted])
  have named : (Record.keys ((plan.columns.map Column.name).zip own) ++
      plan.joins.map Join.shownName).Nodup := by
    rw [ownKeys, ← keys_nested enough]
    exact keys_nested_nodup told ownDistinct enough
  have ownAdded : ((plan.columns.map Column.name).zip own).foldlM Row.Nesting.add .empty =
      .ok ⟨(plan.columns.map Column.name).zip own, []⟩ := by
    refine Row.Nesting.foldlM_own ?_ (by simpa [Record.keys] using ownDistinct) own
    intro name member
    obtain ⟨column, columnMember, rfl⟩ := List.mem_map.1 member
    exact (told.own column columnMember).1
  have joinsAdded := Row.Nesting.foldlM_joins plain
    (fun join member => by simpa [Join.fieldNames] using told.selecting join member) named
    joinedDistinct (List.nil_subset _) full
  have finished := Row.Nesting.finish_eq ((plan.columns.map Column.name).zip own)
    (Join.map_shownName_shares plan.joins joined)
    (fun entry member joinNamed => (List.nodup_append.1 named).2.2 entry.1
      (List.mem_map.2 ⟨entry, member, rfl⟩) entry.1 joinNamed rfl)
    (Join.length_of_shares full)
  have counts : (own ++ joined).length =
      (plan.columns.map Column.name ++ plan.joins.flatMap Join.aliases).length := by
    rw [List.length_append, List.length_append, List.length_map, counted, full]
  rw [Row.unzip_positional counts.ge, List.zip_append (by rw [List.length_map, counted]),
    List.foldlM_append, ownAdded, nested_append counted, ← finished]
  exact congrArg (· >>= fun nesting => pure nesting.finish) joinsAdded

/-- With no dot in the name of a join, a row gives the record of its columns and joins. -/
theorem unzip_eq_nested (selected : plan.select = .ok statement)
    (distinct : statement.aliases.Nodup) (told : plan.IsTold)
    (plain : ∀ join ∈ plan.joins, '.' ∉ join.shownName.toList)
    (full : values.length = statement.aliases.length) :
    (Row.positional values).unzip statement.aliases = .ok (plan.nested values) := by
  have aliases := aliases_of_select selected
  rw [aliases] at distinct full ⊢
  rw [List.length_append, List.length_map] at full
  rw [← List.take_append_drop plan.columns.length values]
  refine unzip_append told plain distinct ?_ ?_
  · rw [List.length_take]
    omega
  · rw [List.length_drop]
    omega

/-- A record that has an entry for a join has its name among its keys, where no key has a dot. -/
theorem plain_of_unzip {row : Row} {aliases : List String} {key : String} {value : Json}
    (unzipped : row.unzip aliases = .ok record) (found : record.find? key = some value) :
    '.' ∉ key.toList := by
  obtain ⟨values, -, nested⟩ := bind_eq_ok.1 unzipped
  obtain ⟨nesting, added, whole⟩ := bind_eq_ok.1 nested
  have member := Record.mem_keys_of_find? found
  rw [← pure_eq_ok.1 whole, Row.Nesting.keys_finish] at member
  exact (Row.Nesting.plain_of_foldlM added member).elim id fun absent => nomatch absent

end Plan

namespace Plan

open Execution

variable {plan : Plan} {statement : Statement}

/-- Fetching over a valid statement reads the rows of the reply. -/
theorem outcome_fetch {session : Session} {rows : List Row} {more : List Reply}
    (selected : plan.select = .ok statement) (valid : statement.validate = .ok ())
    (answered : session.replies = .rows rows :: more) :
    (outcome plan.fetch session).1 =
      (rows.mapM (·.unzip statement.aliases) >>= plan.checkRequired .fetch) := by
  obtain ⟨replies, overlapping, sent, events⟩ := session
  subst answered
  have given : Execution.ofExcept (.ok statement) = pure statement := rfl
  unfold fetch perform
  rw [selected, given, pure_bind]
  unfold run announce
  rw [valid]
  change (outcome (Execution.ofExcept (rows.mapM (·.unzip statement.aliases)) >>= _) _).1 = _
  rw [outcome_bind]
  cases rows.mapM (·.unzip statement.aliases) <;> rfl

end Plan

namespace Sample

/-- Pictures, numbered as their accounts are. -/
def picture : Entity :=
  { account with
    identity := 1
    name := "Picture"
    table := some ⟨"picture", by decide, by decide⟩
    fields := account.fields.take 1 ++
      [⟨"path", ⟨"path", by decide, by decide⟩, .text, false, false, false, none⟩] }

/-- The notes of the accounts, with their pictures joined under a name. -/
def withPictures (name : String) : Plan :=
  { notesWhere [] with
    joins :=
      [⟨.left, { notesWhere [] with
          entity := picture
          tableAlias := none
          columns := [.ofField "id", .ofField "path"] }, some name, [("id", "id")]⟩] }

/-- An account with its picture and one without. -/
def pictureRows : List (List Json) :=
  [[.string "x", .integer 1, .string "p"], [.string "y", .null, .null]]

/-- The statement over accounts and pictures, with the name of the join as it is written. -/
def picturesStatement (name written first second : String) : Statement :=
  ⟨"SELECT \"a?\".\"note?\", " ++ written ++ ".id AS " ++ first ++ ", " ++ written ++ ".path AS " ++
      second ++ " FROM account AS \"a?\" LEFT JOIN picture AS " ++ written ++ " ON " ++ written ++
      ".id = \"a?\".id", [], ["note", name ++ ".id", name ++ ".path"]⟩

set_option maxRecDepth 10000 in
theorem select_photos : (withPictures "photo").select =
    .ok (picturesStatement "photo" "photo" "\"photo.id\"" "\"photo.path\"") := by
  rfl

set_option maxRecDepth 10000 in
theorem select_dotted : (withPictures "a.b").select =
    .ok (picturesStatement "a.b" "\"a.b\"" "\"a.b.id\"" "\"a.b.path\"") := by
  rfl

theorem validate_photos :
    (picturesStatement "photo" "photo" "\"photo.id\"" "\"photo.path\"").validate = .ok () :=
  Statement.validate_eq_ok.2 (by decide +kernel)

theorem validate_dotted :
    (picturesStatement "a.b" "\"a.b\"" "\"a.b.id\"" "\"a.b.path\"").validate = .ok () :=
  Statement.validate_eq_ok.2 (by decide +kernel)

theorem isTold_withPictures {name : String} (own : name ≠ "note") : (withPictures name).IsTold where
  selecting := by simp [withPictures]
  joins := by simp [withPictures]
  own := by
    intro column member
    obtain rfl := List.mem_singleton.1 member
    exact ⟨by decide, by simpa [withPictures, Join.shownName, Column.ofField] using own.symm⟩

end Sample

namespace Plan

open Execution

variable {plan : Plan} {statement : Statement}

/-- Every fetched record has each of the plan's columns under its own name and each join under the
name of the join, exactly when no join has a dot in its name. -/
theorem fetch_nests_iff (session : Session) {rows : List (List Json)} {more : List Reply}
    (selected : plan.select = .ok statement) (distinct : statement.aliases.Nodup)
    (told : plan.IsTold) (valid : statement.validate = .ok ())
    (answered : session.replies = .rows (rows.map .positional) :: more) (returned : rows ≠ [])
    (full : ∀ values ∈ rows, values.length = statement.aliases.length) :
    (∃ records, (outcome plan.fetch session).1 = .ok records ∧
        List.Forall₂ plan.Nests rows records) ↔
      ∀ join ∈ plan.joins, '.' ∉ join.shownName.toList := by
  rw [outcome_fetch selected valid answered]
  constructor
  · rintro ⟨records, fetched, nests⟩ join member
    obtain ⟨unzipped, each, checked⟩ := bind_eq_ok.1 fetched
    obtain rfl : unzipped = records := by
      unfold checkRequired at checked
      split_ifs at checked
      exact Except.ok.inj checked
    have unzips := List.forall₂_map_left_iff.1 (mapM_eq_ok.1 each)
    -- The first record has an entry for the join, and no key of an unzipped record has a dot.
    cases nests with
    | nil => exact absurd rfl returned
    | @cons values record _ _ nest _ =>
        obtain ⟨share, shared, rfl⟩ : ∃ share ∈ plan.shares values, share.1 = join :=
          List.mem_map.1 ((Join.map_fst_shares _ _).symm ▸ member)
        exact plain_of_unzip (List.forall₂_cons.1 unzips).1 (nest.joined share shared)
  · intro plain
    have own : (plan.columns.map Column.name).Nodup := by
      rw [aliases_of_select selected] at distinct
      exact (List.nodup_append.1 distinct).1
    have enough (values : List Json) (counted : values.length = statement.aliases.length) :
        plan.columns.length ≤ values.length := by
      rw [counted, aliases_of_select selected, List.length_append, List.length_map]
      exact Nat.le_add_right _ _
    have each : (rows.map Row.positional).mapM (·.unzip statement.aliases) =
        .ok (rows.map plan.nested) := by
      refine mapM_eq_ok.2 (List.forall₂_map_left_iff.2 (List.forall₂_map_right_iff.2 ?_))
      exact List.forall₂_same.2 fun values member =>
        unzip_eq_nested selected distinct told plain (full values member)
    have required : plan.checkRequired .fetch (rows.map plan.nested) =
        .ok (rows.map plan.nested) := by
      unfold checkRequired
      rw [if_neg (by simp [returned])]
    refine ⟨rows.map plan.nested, ?_, ?_⟩
    · rw [each]
      exact required
    · refine List.forall₂_map_right_iff.2 (List.forall₂_same.2 fun values member => ?_)
      exact nests_nested told own (enough values (full values member))

/-- The pictures come back under their join; where there is none, the join is null. -/
theorem fetch_nests_of_photos :
    ∃ records, (outcome (Sample.withPictures "photo").fetch
        (.start [.rows (Sample.pictureRows.map .positional)] false)).1 = .ok records ∧
      List.Forall₂ (Sample.withPictures "photo").Nests Sample.pictureRows records := by
  have distinct : (Sample.picturesStatement "photo" "photo" "\"photo.id\""
      "\"photo.path\"").aliases.Nodup := by decide +kernel
  have full : ∀ values ∈ Sample.pictureRows, values.length = 3 := by simp [Sample.pictureRows]
  have nested := fetch_nests_iff (.start [.rows (Sample.pictureRows.map .positional)] false)
    Sample.select_photos distinct (Sample.isTold_withPictures (by decide)) Sample.validate_photos
    rfl (List.cons_ne_nil _ _) full
  exact nested.2 (by simp [Sample.withPictures, Join.shownName])

/-- The columns of a join named `a.b` come back under `a`, and nothing does under its name. -/
theorem fetch_of_dottedJoin :
    ∃ statement, (Sample.withPictures "a.b").select = .ok statement ∧ statement.aliases.Nodup ∧
      (Sample.withPictures "a.b").IsTold ∧ statement.validate = .ok () ∧
      (outcome (Sample.withPictures "a.b").fetch
          (.start [.rows [.positional [.string "x", .integer 1, .string "p"]]] false)).1 =
        .ok [[("note", .string "x"),
          ("a", .object [("b.id", .integer 1), ("b.path", .string "p")])]] := by
  refine ⟨_, Sample.select_dotted, by decide +kernel, Sample.isTold_withPictures (by decide),
    Sample.validate_dotted, ?_⟩
  rw [outcome_fetch Sample.select_dotted Sample.validate_dotted rfl]
  rfl

end Plan

end EntityQuery

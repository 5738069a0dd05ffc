import EntityQuery.Proofs.Ident.Written
import EntityQuery.Proofs.Options.Defaults
import EntityQuery.Proofs.Statement.Listing

/-!
# Returned columns

Statements that write rows end in RETURNING and the columns of the query.  The keyword is written
before the columns are counted, so a query without columns leaves it with nothing behind it.  As every
item ends in an identifier, a blank at the end of a statement shows that there is none.
-/

namespace EntityQuery

open Outcome

/-- The text ends in a character other than a blank. -/
def Text.EndsSolid (text : String) : Prop := ∃ last ∈ text.toList.getLast?, last ≠ ' '

namespace Text

theorem EndsSolid.append (front : String) {text : String} (solid : EndsSolid text) :
    EndsSolid (front ++ text) := by
  obtain ⟨last, ends, shown⟩ := solid
  refine ⟨last, ?_, shown⟩
  rw [String.toList_append, List.getLast?_append, Option.mem_def.1 ends, Option.some_or]
  rfl

theorem not_endsSolid_of_blank (front : String) : ¬EndsSolid (front ++ "RETURNING ") := by
  rintro ⟨last, ends, shown⟩
  rw [String.toList_append, List.getLast?_append] at ends
  exact shown (Option.some.inj ends).symm

end Text

open Text

theorem Ident.endsSolid_toSql (ident : Ident) : EndsSolid ident.toSql := by
  unfold toSql
  split
  case isTrue plain =>
      refine ⟨ident.name.toList.getLast ident.notEmpty, List.getLast?_eq_getLast_of_ne_nil _, ?_⟩
      intro blank
      have last := isPlainChar_of_isPlain plain _ (List.getLast_mem ident.notEmpty)
      rw [blank] at last
      exact absurd last (by decide)
  case isFalse =>
      refine ⟨'"', ?_, by decide⟩
      rw [String.toList_ofList, quoted, List.getLast?_concat]
      rfl

theorem Column.Lists.endsSolid {scope : Scope} {outputAlias : String} {column : Column}
    {item : Fragment} (lists : column.Lists scope outputAlias item) : EndsSolid item.text := by
  cases lists with
  | bare own shown =>
      rw [own] at shown
      cases shown with
      | field => exact (Ident.endsSolid_toSql _).append _
  | @labelled shown label =>
      rw [Fragment.text_append, Fragment.text_ofText]
      exact (label.endsSolid_toSql.append " AS ").append _

theorem Fragment.endsSolid_intercalate (separator : String) {items : List Fragment}
    (several : items ≠ []) (solid : ∀ item ∈ items, EndsSolid item.text) :
    EndsSolid (intercalate separator items).text := by
  induction items with
  | nil => exact absurd rfl several
  | cons first rest ih =>
      obtain ⟨firstSolid, others⟩ := List.forall_mem_cons.1 solid
      cases rest with
      | nil => exact firstSolid
      | cons next more => exact (ih (List.cons_ne_nil next more) others).append _

/-- The statement ends in RETURNING and a blank. -/
def Statement.EndsBare (statement : Statement) : Prop :=
  ∃ before, statement.sql = before ++ "RETURNING "

namespace Plan

variable {plan : Plan} {request : StatementRequest} {statement : Statement}

theorem aliases_eq_nil_iff (writes : request.Writes)
    (formatted : plan.statement request = .ok statement) :
    statement.aliases = [] ↔ plan.columns = [] := by
  obtain ⟨items, lists⟩ := exists_lists_of_writes writes formatted
  have own : plan.resultColumns request = plan.columns.map (⟨none, ·⟩) := by
    cases request with
    | select | count => exact writes.elim
    | _ => rfl
  rw [lists.aliased, own, List.map_eq_nil_iff, List.map_eq_nil_iff]

/-- Behind RETURNING there is one item for each alias, and none ends in a blank. -/
theorem exists_returned (writes : request.Writes)
    (formatted : plan.statement request = .ok statement) :
    ∃ before items, statement.sql = before ++ " RETURNING " ++
        (Fragment.intercalate ", " items).text ∧
      items.length = statement.aliases.length ∧ ∀ item ∈ items, EndsSolid item.text := by
  obtain ⟨items, lists⟩ := exists_lists_of_writes writes formatted
  obtain ⟨before, same⟩ : ∃ before, statement.toFragment =
      before ++ .ofText " RETURNING " ++ .intercalate ", " items := by
    have written := lists.written
    cases request with
    | select | count => exact writes.elim
    | _ => exact written
  exact ⟨before.text, items, congrArg Fragment.text same, lists.counted,
    forall_of_listed Column.Lists.endsSolid lists.listed⟩

theorem endsBare_iff_aliases (writes : request.Writes)
    (formatted : plan.statement request = .ok statement) :
    statement.EndsBare ↔ statement.aliases = [] := by
  obtain ⟨before, items, written, counted, solid⟩ := exists_returned writes formatted
  have lengths : items = [] ↔ statement.aliases = [] := by
    rw [← List.length_eq_zero_iff, counted, List.length_eq_zero_iff]
  rw [← lengths]
  constructor
  · rintro ⟨front, bare⟩
    by_contra several
    have ends : EndsSolid statement.sql := by
      rw [written]
      exact (Fragment.endsSolid_intercalate ", " several solid).append _
    rw [bare] at ends
    exact not_endsSolid_of_blank front ends
  · rintro rfl
    refine ⟨before ++ " ", ?_⟩
    rw [written, Fragment.intercalate, Fragment.empty, String.append_empty, String.append_assoc]
    rfl

end Plan

namespace Query

variable {query changed : Query} {request : StatementRequest} {statement : Statement}

/-- No columns are selected, or none of an entity that has no fields. -/
def ListsNothing (query : Query) : Prop :=
  query.effectiveOptions.held? (.list .fields) = some [] ∨
    query.effectiveOptions.held? (.list .fields) = none ∧ query.entity.fields = []

theorem columns_eq_nil_iff : query.columns = [] ↔ query.ListsNothing := by
  have unlisted : query.entity.columns = [] ↔ query.entity.fields = [] := by
    rw [columns_entity, List.map_eq_nil_iff]
  unfold columns ListsNothing
  cases query.effectiveOptions.held? (.list .fields) with
  | none => simpa using unlisted
  | some listed => simp

/-- A statement that writes rows has one item with text behind RETURNING for each of its aliases.
So it ends in RETURNING alone exactly if it has no aliases: if the query selects no columns, or its
entity has no fields to select. -/
theorem endsBare_iff (writes : request.Writes)
    (formatted : query.plan.statement request = .ok statement) :
    (∃ before items, statement.sql = before ++ " RETURNING " ++
        (Fragment.intercalate ", " items).text ∧
      items.length = statement.aliases.length ∧ ∀ item ∈ items, EndsSolid item.text) ∧
    (statement.EndsBare ↔ statement.aliases = []) ∧
    (statement.aliases = [] ↔ query.ListsNothing) :=
  ⟨Plan.exists_returned writes formatted, Plan.endsBare_iff_aliases writes formatted,
    (Plan.aliases_eq_nil_iff writes formatted).trans columns_eq_nil_iff⟩

/-- After the columns of a query without any are set, its statements end in RETURNING alone exactly
if nothing is in the value. -/
theorem endsBare_after_set_iff {value : Json} (alone : query.defaults = none)
    (unlisted : query.options.held? (.list .fields) = none) (given : value ≠ .null)
    (set : query.set "fields" (some value) = .ok changed) (writes : request.Writes)
    (formatted : changed.plan.statement request = .ok statement) :
    statement.EndsBare ↔ ListOption.fields.leaves value = [] := by
  unfold Query.set at set
  split at set
  · next options reached =>
      obtain rfl := Except.ok.inj set
      have found : Options.named "fields" = .ok (.list .fields) := rfl
      obtain ⟨items, read, rfl⟩ := (Options.set_eq_ok found given).1 reached
      have held : (query.withOptions (query.options.append .fields items)).effectiveOptions.held?
          (.list .fields) = some items := by
        have own : (query.withOptions (query.options.append .fields items)).effectiveOptions =
            query.options.append .fields items := by
          simp only [effectiveOptions, withOptions, alone]
        rw [own, Options.append_eq_put _ (.inr rfl), Options.put, Options.held?_update_same,
          Options.items, unlisted]
        rfl
      have nothing : (query.withOptions (query.options.append .fields items)).ListsNothing ↔
          items = [] := by
        rw [ListsNothing, held]
        simp
      rw [Plan.endsBare_iff_aliases writes formatted, Plan.aliases_eq_nil_iff writes formatted]
      have lists : ListOption.Lists .fields value items := ListOption.lists_of_read read
      exact columns_eq_nil_iff.trans (nothing.trans lists.eq_nil_iff)
  · cases set

end Query

set_option maxRecDepth 10000 in
/-- Notes and their lengths are returned when all accounts are deleted. -/
theorem Query.endsBare_of_captions :
    ∃ statement, Sample.captions.plan.statement .delete = .ok statement ∧
      statement.aliases = ["note", "note length"] ∧ ¬statement.EndsBare := by
  have writes : StatementRequest.delete.Writes := trivial
  have formatted : Sample.captions.plan.statement .delete =
      .ok ⟨"DELETE FROM account RETURNING account.\"note?\", " ++
          "length(note) AS \"note length\"", [], ["note", "note length"]⟩ := rfl
  obtain ⟨-, bare, -⟩ := Query.endsBare_iff writes formatted
  exact ⟨_, formatted, rfl, fun ends => nomatch bare.1 ends⟩

set_option maxRecDepth 10000 in
/-- With no columns selected, nothing stands behind the keyword when all accounts are deleted. -/
theorem Query.delete_of_noFields :
    ∃ query, (Query.on Sample.account).set "fields" (some (.array [])) = .ok query ∧
      query.plan.statement .delete = .ok ⟨"DELETE FROM account RETURNING ", [], []⟩ :=
  ⟨_, rfl, rfl⟩

end EntityQuery

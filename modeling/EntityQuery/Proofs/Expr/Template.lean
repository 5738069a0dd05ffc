import EntityQuery.Proofs.Entity.Names
import EntityQuery.Proofs.Expr.Pieces
import EntityQuery.Proofs.Execution.Fetching

/-!
# Expressions under an alias

An expression on an entity is written from a template: the qualifier of each of the entity's own
columns is a slot, and all other text stands.  The alias of the table is what the slots are filled
with, and the name of the table if there is none.
-/

namespace EntityQuery

open Outcome

/-- A part of a text in which qualifiers are left open. -/
inductive TemplatePart
  | slot (column : Ident)
  | fixed (fragment : Fragment)

namespace TemplatePart

/-- The part with a qualifier in its slot. -/
def fill (qualifier : String) : TemplatePart → Fragment
  | .slot column => .ofText (qualifier ++ "." ++ column.toSql)
  | .fixed fragment => fragment

def fillAll (qualifier : String) : List TemplatePart → Fragment
  | [] => .empty
  | part :: rest => part.fill qualifier ++ fillAll qualifier rest

theorem values_fillAll (first second : String) (template : List TemplatePart) :
    (fillAll first template).values = (fillAll second template).values := by
  induction template with
  | nil => rfl
  | cons part rest ih => cases part <;> simp [fillAll, fill, ih]

end TemplatePart

/-- The part of a template that stands for a piece: a slot for columns of the entity, and for
nothing else. -/
inductive Piece.Lays (entity : Entity) : Piece → TemplatePart → Prop
  | text {fragment : Fragment} : Lays entity (.text fragment) (.fixed fragment)
  | raw {fragment : Fragment} : Lays entity (.raw fragment) (.fixed fragment)
  | column {name : String} {field : Field} : entity.field? name = some field →
      Lays entity (.column name) (.slot field.column)
  | own {reference : FieldRef} {field : Field} :
      reference.owner.identity = entity.identity → entity.field? reference.name = some field →
      Lays entity (.field reference) (.slot field.column)
  | foreign {reference : FieldRef} {table : Ident} :
      reference.owner.identity ≠ entity.identity → reference.owner.table = some table →
      Lays entity (.field reference) (.fixed (.ofText (table.qualified reference.field.column)))
  | subquery {plan : Plan} {statement : Statement} : plan.select = .ok statement →
      Lays entity (.subquery plan) (.fixed statement.toFragment.parenthesized)

/-- Two fragments that are one template for the pieces, filled with different qualifiers. -/
def Piece.LaidOut (entity : Entity) (first second : String) (pieces : List Piece)
    (one two : Fragment) : Prop :=
  ∃ template, List.Forall₂ (Piece.Lays entity) pieces template ∧
    one = TemplatePart.fillAll first template ∧ two = TemplatePart.fillAll second template

section

variable {entity : Entity} {table : Ident}

/-- A column of the entity, with the table for its qualifier and with the alias. -/
theorem Scope.matches_column (tabled : entity.table = some table) (tableAlias : Ident)
    (name : String) :
    Matches (fun first second => ∃ field, entity.field? name = some field ∧
        first = table.qualified field.column ∧ second = tableAlias.qualified field.column)
      (Scope.column ⟨entity, none⟩ name) (Scope.column ⟨entity, some tableAlias⟩ name) := by
  unfold Scope.column
  have fields : Matches (fun one two => one = two ∧ entity.field? name = some one)
      (entity.field name) (entity.field name) :=
    .same fun field found => ⟨rfl, Entity.field_eq_ok.1 found⟩
  refine fields.bind ?_
  rintro field _ ⟨rfl, found⟩
  have plain : Scope.qualifier ⟨entity, none⟩ = .ok table := Entity.requireTable_eq_ok.2 tabled
  rw [plain]
  exact .ok ⟨field, found, rfl, rfl⟩

theorem Piece.matches_format (tabled : entity.table = some table) (tableAlias : Ident)
    (piece : Piece) :
    Matches (fun one two => ∃ part, piece.Lays entity part ∧ one = part.fill table.toSql ∧
        two = part.fill tableAlias.toSql)
      (piece.format ⟨entity, none⟩) (piece.format ⟨entity, some tableAlias⟩) := by
  cases piece with
  | text fragment => exact .ok ⟨.fixed fragment, .text, rfl, rfl⟩
  | raw fragment => exact .ok ⟨.fixed fragment, .raw, rfl, rfl⟩
  | column name =>
      refine (Scope.matches_column tabled tableAlias name).bind ?_
      rintro _ _ ⟨field, found, rfl, rfl⟩
      exact .ok ⟨.slot field.column, .column found, rfl, rfl⟩
  | field reference =>
      dsimp only [Piece.format, Scope.fieldColumn]
      by_cases own : reference.owner.identity = entity.identity
      · rw [if_pos own, if_pos own]
        refine (Scope.matches_column tabled tableAlias reference.name).bind ?_
        rintro _ _ ⟨field, found, rfl, rfl⟩
        exact .ok ⟨.slot field.column, .own own found, rfl, rfl⟩
      · rw [if_neg own, if_neg own, bind_assoc]
        refine Matches.same fun fragment formatted => ?_
        obtain ⟨foreign, required, whole⟩ := bind_eq_ok.1 formatted
        rw [pure_bind] at whole
        obtain rfl := pure_eq_ok.1 whole
        exact ⟨.fixed _, .foreign own (Entity.requireTable_eq_ok.1 required), rfl, rfl⟩
  | subquery plan =>
      refine Matches.same fun fragment formatted => ?_
      obtain ⟨statement, selected, whole⟩ := bind_eq_ok.1 formatted
      obtain rfl := pure_eq_ok.1 whole
      exact ⟨.fixed _, .subquery selected, rfl, rfl⟩

theorem Piece.matches_formatAll (tabled : entity.table = some table) (tableAlias : Ident)
    (pieces : List Piece) :
    Matches (Piece.LaidOut entity table.toSql tableAlias.toSql pieces)
      (Piece.formatAll ⟨entity, none⟩ pieces)
      (Piece.formatAll ⟨entity, some tableAlias⟩ pieces) := by
  induction pieces with
  | nil => exact .ok ⟨[], .nil, rfl, rfl⟩
  | cons piece rest ih =>
      refine (Piece.matches_format tabled tableAlias piece).bind ?_
      rintro _ _ ⟨part, lays, rfl, rfl⟩
      refine ih.bind ?_
      rintro _ _ ⟨template, laid, rfl, rfl⟩
      exact .ok ⟨part :: template, .cons lays laid, rfl, rfl⟩

/-- With and without an alias, an expression fails with the same error, or it is one template filled
with the alias or with the table, and the values are the same. -/
theorem Expr.matches_under_alias (tabled : entity.table = some table) (tableAlias : Ident)
    (expr : Expr) :
    Matches (fun plain aliased =>
        Piece.LaidOut entity table.toSql tableAlias.toSql expr.pieces plain aliased ∧
          plain.values = aliased.values)
      (expr.format ⟨entity, none⟩) (expr.format ⟨entity, some tableAlias⟩) := by
  rw [Expr.format_eq_pieces, Expr.format_eq_pieces]
  refine (Piece.matches_formatAll tabled tableAlias expr.pieces).imp fun plain aliased laid => ?_
  refine ⟨laid, ?_⟩
  obtain ⟨template, -, rfl, rfl⟩ := laid
  exact TemplatePart.values_fillAll _ _ template

end

namespace Sample

/-- A name that accounts go by. -/
def owner : Ident := ⟨"owner", by decide, by decide⟩

/-- Accounts by their number, by a picture, by a raw fragment and by a query on accounts. -/
def mixed : Expr :=
  .group .and
    [.condition (.compare .equalTo (.name "id") (.field ⟨picture, "id", by decide⟩)),
      .raw ⟨"account.id > ?", [.integer 1]⟩,
      .condition (.isIn (.name "note") (.subquery (notesWhere [])))]

end Sample

set_option maxRecDepth 10000 in
/-- Neither the raw fragment nor the nested query takes the alias, though both are on accounts. -/
theorem Expr.matches_under_alias_of_mixed :
    ∃ aliased, Sample.mixed.format ⟨Sample.account, some Sample.owner⟩ = .ok aliased ∧
      Piece.LaidOut Sample.account "account" "owner" Sample.mixed.pieces
        ⟨"(account.id = picture.id AND account.id > ? AND account.\"note?\" IN " ++
          "(SELECT \"a?\".\"note?\" FROM account AS \"a?\"))", [.integer 1]⟩ aliased ∧
      aliased.text = "(owner.id = picture.id AND account.id > ? AND owner.\"note?\" IN " ++
        "(SELECT \"a?\".\"note?\" FROM account AS \"a?\"))" := by
  have plain : Sample.mixed.format ⟨Sample.account, none⟩ = .ok
      ⟨"(account.id = picture.id AND account.id > ? AND account.\"note?\" IN " ++
        "(SELECT \"a?\".\"note?\" FROM account AS \"a?\"))", [.integer 1]⟩ := by
    rfl
  have tabled : Sample.account.table = some ⟨"account", by decide, by decide⟩ := rfl
  have renamed := Expr.matches_under_alias tabled Sample.owner Sample.mixed
  obtain ⟨aliased, formatted, laid, -⟩ := renamed.exists_of_ok plain
  have written : Sample.mixed.format ⟨Sample.account, some Sample.owner⟩ = .ok
      ⟨"(owner.id = picture.id AND account.id > ? AND owner.\"note?\" IN " ++
        "(SELECT \"a?\".\"note?\" FROM account AS \"a?\"))", [.integer 1]⟩ := by
    rfl
  obtain rfl := Except.ok.inj (formatted.symm.trans written)
  exact ⟨_, formatted, laid, rfl⟩

end EntityQuery

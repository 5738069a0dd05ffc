import EntityQuery.Proofs.Expr.Pieces
import EntityQuery.Proofs.Statement.Filtering
import EntityQuery.Proofs.Statement.Listing

/-!
# Names in a batch update

A batch update reads from two rows.  The row of the table is known by the qualifier of the plan, the
row of values by a name that the statement brings along.  A column belongs to the rows that are
known by its qualifier, so it belongs to one row exactly if the two names are not the same to the
server.  Nothing keeps a table or an alias from having the name of the list of values.
-/

namespace EntityQuery

open Outcome

namespace Ident

/-- What a server knows an identifier by: its letters count as small ones, unless there are
quotes around it. -/
def knownName (ident : Ident) : String :=
  if ident.isPlain then String.ofList (ident.name.toList.map Char.toLower) else ident.name

/-- The identifier is taken for the name of the list of values. -/
def IsValuesName (ident : Ident) : Prop := ident.name = "v" ∨ ident.name = "V"

instance (ident : Ident) : Decidable ident.IsValuesName := inferInstanceAs (Decidable (_ ∨ _))

theorem toLower_eq_v_iff {char : Char} : char.toLower = 'v' ↔ char = 'v' ∨ char = 'V' := by
  constructor
  · intro lowered
    unfold Char.toLower at lowered
    split_ifs at lowered with upper
    · right
      have shifted := congrArg Char.val lowered
      apply Char.ext
      dsimp only at shifted
      grind
    · exact .inl lowered
  · rintro (rfl | rfl) <;> rfl

theorem knownName_eq_valuesName_iff {ident : Ident} :
    ident.knownName = Plan.valuesName.knownName ↔ ident.IsValuesName := by
  have given : Plan.valuesName.knownName = "v" := by rfl
  rw [given]
  constructor
  · intro same
    unfold knownName at same
    split at same
    case isTrue =>
        have chars : ident.name.toList.map Char.toLower = ['v'] := by
          rw [← String.toList_ofList (l := ident.name.toList.map Char.toLower), same]
          rfl
        obtain ⟨char, alone, lowered⟩ := List.map_eq_singleton_iff.1 chars
        rw [IsValuesName, ← String.ofList_toList (s := ident.name), alone]
        exact (toLower_eq_v_iff.1 lowered).imp (by rintro rfl; rfl) (by rintro rfl; rfl)
    case isFalse => exact .inl same
  · intro named
    unfold knownName isPlain
    rcases named with named | named <;> rw [named] <;> rfl

end Ident

/-- The rows that a batch update reads from. -/
inductive BatchRow
  /-- The row of the table. -/
  | stored
  /-- The row of the list of values. -/
  | given
  deriving DecidableEq

namespace BatchRow

/-- The name of a row, where the columns of the table have a qualifier. -/
def name (qualifier : Ident) : BatchRow → Ident
  | stored => qualifier
  | given => Plan.valuesName

/-- The rows that a column belongs to, by the name in front of it. -/
def knownBy (qualifier name : Ident) : List BatchRow :=
  [stored, given].filter fun row => (row.name qualifier).knownName == name.knownName

end BatchRow

/-- A part of a batch update: a column of one of its rows, or a piece of what the plan asks for. -/
inductive BatchPart
  | stored (column : Ident)
  | given (column : Ident)
  | asked (piece : Piece)

namespace Piece

/-- The name in front of the piece, if it is a column. -/
def qualifier? (entity : Entity) (qualifier : Ident) : Piece → Option Ident
  | .column _ => some qualifier
  | .field reference =>
      if reference.owner.identity = entity.identity then some qualifier else reference.owner.table
  | .text _ | .raw _ | .subquery _ => none

/-- Whether the piece is a column of the entity. -/
def isOwn (entity : Entity) : Piece → Bool
  | .column _ => true
  | .field reference => reference.owner.identity = entity.identity
  | .text _ | .raw _ | .subquery _ => false

end Piece

namespace BatchPart

def format (scope : Scope) : BatchPart → Except Error Fragment
  | .stored column => return .ofText ((← scope.qualifier).qualified column)
  | .given column => .ok (.ofText (Plan.valuesName.qualified column))
  | .asked piece => piece.format scope

/-- The parts one after the other. -/
def formatAll (scope : Scope) : List BatchPart → Except Error Fragment
  | [] => .ok .empty
  | part :: rest => return (← part.format scope) ++ (← formatAll scope rest)

/-- The name in front of the part, if it is a column. -/
def qualifier? (entity : Entity) (qualifier : Ident) : BatchPart → Option Ident
  | .stored _ => some qualifier
  | .given _ => some Plan.valuesName
  | .asked piece => piece.qualifier? entity qualifier

/-- The row that the part is meant to be read from.  Columns of other entities are in neither. -/
def row? (entity : Entity) : BatchPart → Option BatchRow
  | .stored _ => some .stored
  | .given _ => some .given
  | .asked piece => if piece.isOwn entity then some .stored else none

/-- The table in front of the part, if it is a column of another entity. -/
def foreignTable? (entity : Entity) : BatchPart → Option Ident
  | .asked (.field reference) =>
      if reference.owner.identity = entity.identity then none else reference.owner.table
  | _ => none

def keyword (text : String) : BatchPart := .asked (.keyword text)

/-- The parts of an assignment from the list of values. -/
def ofAssignment (field : Field) : List BatchPart :=
  [keyword (field.column.toSql ++ " = "), .given field.column]

/-- The parts of the equation of a key with the list of values. -/
def ofKey (field : Field) : List BatchPart :=
  [.stored field.column, keyword " = ", .given field.column]

/-- Groups of parts with a separator between them. -/
def separated (separator : String) : List (List BatchPart) → List BatchPart
  | [] => []
  | [group] => group
  | group :: rest => group ++ keyword separator :: separated separator rest

/-- A column that is meant to be read from a row belongs to this row only, and a column of another
entity does not belong to the row of values. -/
def IsUncaptured (entity : Entity) (qualifier : Ident) (part : BatchPart) : Prop :=
  ∀ name, part.qualifier? entity qualifier = some name →
    match part.row? entity with
    | some row => BatchRow.knownBy qualifier name = [row]
    | none => .given ∉ BatchRow.knownBy qualifier name

end BatchPart

namespace Column

/-- The pieces of the label with a name. -/
def labelPieces (name : String) : List Piece :=
  match Ident.ofName name with
  | .ok label => [.keyword (" AS " ++ label.toSql)]
  | .error _ => []

/-- The pieces of a column: what it reads from, and its label. -/
def pieces : Column → List Piece
  | ⟨name, .field own⟩ => .column own :: if name = own then [] else labelPieces name
  | ⟨name, .raw fragment⟩ => .raw fragment :: labelPieces name
  | ⟨name, .subquery plan⟩ => .subquery plan :: labelPieces name

end Column

namespace Plan

/-- The pieces of the filter behind the keys of a batch update. -/
def filterPieces (plan : Plan) : List Piece :=
  let items := Piece.combine .and (Expr.piecesOfEach plan.filter)
  if items.all Piece.isBlank then [] else .keyword " AND " :: items

/-- The parts of a batch update from a list of values for these fields, from left to right. -/
def batchParts (plan : Plan) (source : String) (fields : List Field) (records : List Record) :
    List BatchPart :=
  .keyword ("UPDATE " ++ source ++ " SET ") ::
    BatchPart.separated ", "
      ((fields.filter fun field => !field.primary).map BatchPart.ofAssignment) ++
    [.keyword " FROM (VALUES ", .asked (.text (.joined ", " (records.map (updateTuple fields)))),
      .keyword (") AS " ++ valuesName.toSql ++ "(" ++ columnNames fields ++ ") WHERE ")] ++
    BatchPart.separated " AND " (plan.entity.primaryFields.map BatchPart.ofKey) ++
    plan.filterPieces.map .asked ++
    .keyword " RETURNING " :: (Piece.intercalate ", " (plan.columns.map Column.pieces)).map .asked

end Plan

namespace BatchPart

variable {scope : Scope} {qualifier : Ident} {part : BatchPart}

theorem formatAll_nil (scope : Scope) : formatAll scope [] = .ok .empty := rfl

theorem formatAll_cons {parts : List BatchPart} {first others : Fragment}
    (firstShown : part.format scope = .ok first)
    (othersShown : formatAll scope parts = .ok others) :
    formatAll scope (part :: parts) = .ok (first ++ others) :=
  bind_eq_ok.2 ⟨first, firstShown, bind_eq_ok.2 ⟨others, othersShown, rfl⟩⟩

theorem formatAll_append {front back : List BatchPart} {first second : Fragment}
    (frontShown : formatAll scope front = .ok first)
    (backShown : formatAll scope back = .ok second) :
    formatAll scope (front ++ back) = .ok (first ++ second) := by
  induction front generalizing first with
  | nil =>
      obtain rfl := Except.ok.inj frontShown
      rwa [List.nil_append, Fragment.empty_append]
  | cons part rest ih =>
      obtain ⟨one, oneShown, more⟩ := bind_eq_ok.1 frontShown
      obtain ⟨others, othersShown, whole⟩ := bind_eq_ok.1 more
      obtain rfl := pure_eq_ok.1 whole
      rw [List.cons_append, Fragment.append_assoc]
      exact formatAll_cons oneShown (ih othersShown)

theorem formatAll_asked (scope : Scope) (pieces : List Piece) :
    formatAll scope (pieces.map .asked) = Piece.formatAll scope pieces := by
  induction pieces with
  | nil => rfl
  | cons piece rest ih =>
      rw [List.map_cons, formatAll, ih]
      rfl

theorem formatAll_separated {separator : String} {groups : List (List BatchPart)}
    {fragments : List Fragment}
    (shown : List.Forall₂ (fun group fragment => formatAll scope group = .ok fragment)
      groups fragments) :
    formatAll scope (separated separator groups) =
      .ok (Fragment.intercalate separator fragments) := by
  induction shown with
  | nil => rfl
  | cons first later ih =>
      cases later with
      | nil => exact first
      | cons second _ =>
          rw [separated, Fragment.intercalate, Fragment.append_assoc]
          · exact formatAll_append first (formatAll_cons rfl ih)
          · exact List.cons_ne_nil _ _
          · exact List.cons_ne_nil _ _

theorem exists_of_formatAll {parts : List BatchPart} {fragment : Fragment}
    (shown : formatAll scope parts = .ok fragment) :
    ∀ part ∈ parts, ∃ written, part.format scope = .ok written := by
  induction parts generalizing fragment with
  | nil => exact nofun
  | cons part rest ih =>
      obtain ⟨first, firstShown, more⟩ := bind_eq_ok.1 shown
      obtain ⟨others, othersShown, -⟩ := bind_eq_ok.1 more
      exact List.forall_mem_cons.2 ⟨⟨first, firstShown⟩, ih othersShown⟩

/-- A part with a name in front of it is a column that is written with this name. -/
theorem format_of_qualifier? (qualified : scope.qualifier = .ok qualifier) {name : Ident}
    (named : part.qualifier? scope.entity qualifier = some name) {written : Fragment}
    (shown : part.format scope = .ok written) :
    ∃ column, written = .ofText (name.qualified column) := by
  have own {fieldName text : String} (resolved : scope.column fieldName = .ok text) :
      ∃ column, text = qualifier.qualified column := by
    obtain ⟨field, -, more⟩ := bind_eq_ok.1 resolved
    obtain ⟨_, given, whole⟩ := bind_eq_ok.1 more
    obtain rfl := Except.ok.inj (given.symm.trans qualified)
    exact ⟨_, (pure_eq_ok.1 whole).symm⟩
  cases part with
  | stored column =>
      obtain rfl := Option.some.inj named
      rw [format, qualified] at shown
      exact ⟨column, (Except.ok.inj shown).symm⟩
  | given column =>
      obtain rfl := Option.some.inj named
      exact ⟨column, (Except.ok.inj shown).symm⟩
  | asked piece =>
      cases piece with
      | text | raw | subquery => exact nomatch named
      | column fieldName =>
          obtain rfl := Option.some.inj named
          obtain ⟨text, resolved, whole⟩ := bind_eq_ok.1 shown
          obtain ⟨column, rfl⟩ := own resolved
          exact ⟨column, (pure_eq_ok.1 whole).symm⟩
      | field reference =>
          obtain ⟨text, resolved, whole⟩ := bind_eq_ok.1 shown
          obtain rfl := pure_eq_ok.1 whole
          dsimp only [qualifier?, Piece.qualifier?] at named
          unfold Scope.fieldColumn at resolved
          split_ifs at named resolved
          · obtain rfl := Option.some.inj named
            obtain ⟨column, rfl⟩ := own resolved
            exact ⟨column, rfl⟩
          · obtain ⟨table, required, written⟩ := bind_eq_ok.1 resolved
            obtain rfl := Option.some.inj ((Entity.requireTable_eq_ok.1 required).symm.trans named)
            exact ⟨_, congrArg Fragment.ofText (pure_eq_ok.1 written).symm⟩

end BatchPart

namespace Fragment

theorem intercalate_ofText (separator : String) (texts : List String) :
    intercalate separator (texts.map ofText) = .ofText (separator.intercalate texts) := by
  refine Fragment.ext (text_intercalate_ofText separator texts) ?_
  rw [values_intercalate, values_ofText]
  induction texts with
  | nil => rfl
  | cons text rest ih => exact ih

end Fragment

namespace Column

variable {scope : Scope} {column : Column} {listed : OutputColumn}

/-- A formatted column is its pieces one after the other. -/
theorem formatAll_pieces (formatted : column.format scope none = .ok listed) :
    Piece.formatAll scope column.pieces = .ok listed.fragment := by
  obtain ⟨name, source⟩ := column
  obtain ⟨shown, sourceShown, labelled⟩ := bind_eq_ok.1 formatted
  have labelled_eq {own : Piece} (same : own.format scope = .ok shown)
      (made : (match Ident.ofName name with
        | .ok ident => .ok ⟨shown ++ .ofText (" AS " ++ ident.toSql), name⟩
        | .error fault => .error (.invalidOption "fields" (.columnAlias scope.entity.name fault))) =
          Except.ok (ε := Error) listed) :
      Piece.formatAll scope (own :: labelPieces name) = .ok listed.fragment := by
    cases named : Ident.ofName name with
    | error fault =>
        rw [named] at made
        exact nomatch made
    | ok label =>
        rw [named] at made
        obtain rfl := Except.ok.inj made
        rw [labelPieces, named, Piece.formatAll_cons, same, Piece.formatAll_singleton]
        rfl
  cases source with
  | field own =>
      dsimp only [pieces]
      by_cases same : name = own
      · simp only [OutputColumn.ofSource, same, beq_self_eq_true, if_true] at labelled
        obtain rfl := Except.ok.inj labelled
        rw [if_pos same, Piece.formatAll_singleton]
        exact sourceShown
      · simp only [OutputColumn.ofSource, beq_false_of_ne same, Bool.false_eq_true,
          if_false] at labelled
        rw [if_neg same]
        exact labelled_eq sourceShown labelled
  | raw fragment => exact labelled_eq sourceShown labelled
  | subquery plan => exact labelled_eq sourceShown labelled

theorem formatEach_pieces {columns : List Column} {returned : List OutputColumn}
    (formatted : Column.formatAll scope none columns = .ok returned) :
    Piece.formatEach scope (columns.map pieces) = .ok (returned.map OutputColumn.fragment) := by
  induction columns generalizing returned with
  | nil =>
      obtain rfl := Except.ok.inj formatted
      rfl
  | cons column rest ih =>
      unfold Column.formatAll at formatted
      obtain ⟨first, firstShown, more⟩ := bind_eq_ok.1 formatted
      obtain ⟨others, othersShown, whole⟩ := bind_eq_ok.1 more
      obtain rfl := pure_eq_ok.1 whole
      rw [List.map_cons, Piece.formatEach_cons, formatAll_pieces firstShown, ih othersShown]
      rfl

end Column

namespace Plan

variable {plan : Plan} {scope : Scope} {qualifier : Ident} {statement : Statement}

/-- As every column is listed with some text, none is left out of the list. -/
theorem formatAll_returned {returned : List OutputColumn} (resolved : plan.scope = .ok scope)
    (listed : plan.outputColumns scope = .ok returned) :
    Piece.formatAll scope (Piece.intercalate ", " (plan.columns.map Column.pieces)) =
      .ok (OutputColumn.list returned) := by
  have shown := forall_of_listed Column.Lists.text_ne_empty (listed_own resolved listed)
  rw [Piece.formatAll_intercalate, Column.formatEach_pieces listed, OutputColumn.list,
    Fragment.joined_eq_intercalate shown]
  rfl

theorem formatAll_filterPieces {items : List Fragment}
    (formatted : Expr.formatAll scope plan.filter = .ok items) :
    Piece.formatAll scope plan.filterPieces = .ok ((Junction.and.combine items).after " AND ") := by
  have combined : Piece.formatAll scope (Piece.combine .and (Expr.piecesOfEach plan.filter)) =
      .ok (Junction.and.combine items) := by
    rw [Piece.formatAll_combine, ← Expr.formatAll_eq_pieces, formatted]
    rfl
  have blank := Piece.isEmpty_of_formatAll combined
  unfold filterPieces Fragment.after
  dsimp only
  rw [← blank]
  split_ifs
  · rfl
  · rw [Piece.formatAll_cons, combined]
    rfl

theorem clauses_four {first second third fourth : Fragment} (shown : ∀ clause ∈
    [first, second, third, fourth], clause.text ≠ "") :
    Fragment.clauses [first, second, third, fourth] = first ++ (.ofText " " ++ (second ++
      (.ofText " " ++ (third ++ (.ofText " " ++ fourth))))) := by
  rw [Fragment.clauses, Fragment.joined_eq_intercalate shown]
  simp only [Fragment.intercalate, Fragment.append_assoc]

theorem formatAll_assignments (scope : Scope) (fields : List Field) :
    BatchPart.formatAll scope (BatchPart.separated ", " (fields.map BatchPart.ofAssignment)) =
      .ok (.ofText (", ".intercalate (fields.map batchAssignment))) := by
  rw [← Fragment.intercalate_ofText, List.map_map]
  apply BatchPart.formatAll_separated
  rw [List.forall₂_map_left_iff, List.forall₂_map_right_iff]
  refine List.forall₂_same.2 fun field _ => ?_
  refine (BatchPart.formatAll_cons rfl
    (BatchPart.formatAll_cons rfl (BatchPart.formatAll_nil scope))).trans ?_
  refine congrArg Except.ok (Fragment.ext ?_ rfl)
  simp [batchAssignment, Fragment.empty]

theorem formatAll_keys (qualified : scope.qualifier = .ok qualifier) (fields : List Field) :
    BatchPart.formatAll scope (BatchPart.separated " AND " (fields.map BatchPart.ofKey)) =
      .ok (.ofText (" AND ".intercalate (fields.map (batchKey qualifier)))) := by
  rw [← Fragment.intercalate_ofText, List.map_map]
  apply BatchPart.formatAll_separated
  rw [List.forall₂_map_left_iff, List.forall₂_map_right_iff]
  refine List.forall₂_same.2 fun field _ => ?_
  have stored : (BatchPart.stored field.column).format scope =
      .ok (.ofText (qualifier.qualified field.column)) := by
    rw [BatchPart.format, qualified]
    rfl
  refine (BatchPart.formatAll_cons stored
    (BatchPart.formatAll_cons rfl
      (BatchPart.formatAll_cons rfl (BatchPart.formatAll_nil scope)))).trans ?_
  refine congrArg Except.ok (Fragment.ext ?_ rfl)
  simp [batchKey, Fragment.empty, String.append_assoc]

/-- A batch update is its parts one after the other. -/
theorem formatAll_batchParts (source : String) {returned : List OutputColumn}
    {items : List Fragment} (fields : List Field) (records : List Record)
    (resolved : plan.scope = .ok scope) (qualified : scope.qualifier = .ok qualifier)
    (filtered : Expr.formatAll scope plan.filter = .ok items)
    (listed : plan.outputColumns scope = .ok returned) :
    BatchPart.formatAll scope (plan.batchParts source fields records) =
      .ok (.clauses
        [.ofText ("UPDATE " ++ source ++ " SET " ++ ", ".intercalate
            ((fields.filter fun field => !field.primary).map batchAssignment)),
          .ofText "FROM (VALUES " ++ .joined ", " (records.map (updateTuple fields)) ++
            .ofText (") AS " ++ valuesName.toSql ++ "(" ++ columnNames fields ++ ")"),
          .ofText ("WHERE " ++ " AND ".intercalate
              (plan.entity.primaryFields.map (batchKey qualifier))) ++
            (Junction.and.combine items).after " AND ",
          returningClause returned]) := by
  have assigned := formatAll_assignments scope (fields.filter fun field => !field.primary)
  have keyed := formatAll_keys qualified plan.entity.primaryFields
  have filter := formatAll_filterPieces filtered
  have returning := formatAll_returned resolved listed
  rw [← BatchPart.formatAll_asked] at filter returning
  refine (BatchPart.formatAll_append (BatchPart.formatAll_append (BatchPart.formatAll_append
    (BatchPart.formatAll_append (BatchPart.formatAll_cons rfl assigned)
      (BatchPart.formatAll_cons rfl (BatchPart.formatAll_cons rfl
        (BatchPart.formatAll_cons rfl (BatchPart.formatAll_nil scope)))))
    keyed) filter) (BatchPart.formatAll_cons rfl returning)).trans ?_
  rw [clauses_four (by simp [returningClause])]
  refine congrArg Except.ok (Fragment.ext ?_ ?_)
  · have from_eq : " FROM (VALUES " = " " ++ "FROM (VALUES " := rfl
    have where_eq : ") WHERE " = ")" ++ (" " ++ "WHERE ") := rfl
    have returning_eq : " RETURNING " = " " ++ "RETURNING " := rfl
    simp only [returningClause, Fragment.text_append, Fragment.text_ofText, Fragment.empty,
      String.append_empty, from_eq, where_eq, returning_eq, String.append_assoc]
  · simp [returningClause]

end Plan

namespace BatchRow

variable {qualifier name : Ident}

theorem given_mem_knownBy_iff : .given ∈ knownBy qualifier name ↔ name.IsValuesName := by
  rw [← Ident.knownName_eq_valuesName_iff, knownBy, List.mem_filter, beq_iff_eq]
  exact ⟨fun member => member.2.symm, fun same => ⟨by decide, same.symm⟩⟩

/-- Each row is told from the other by its name, unless both have the same one. -/
theorem knownBy_name_iff (row : BatchRow) :
    knownBy qualifier (row.name qualifier) = [row] ↔ ¬qualifier.IsValuesName := by
  rw [← Ident.knownName_eq_valuesName_iff]
  by_cases same : qualifier.knownName = Plan.valuesName.knownName
  · cases row <;> simp [knownBy, name, same]
  · have other := Ne.symm same
    cases row <;> simp [knownBy, name, same, other]

end BatchRow

namespace BatchPart

variable {entity : Entity} {qualifier : Ident} {part : BatchPart}

theorem qualifier?_of_row? {row : BatchRow} (meant : part.row? entity = some row) :
    part.qualifier? entity qualifier = some (row.name qualifier) := by
  cases part with
  | stored | given =>
      obtain rfl := Option.some.inj meant
      rfl
  | asked piece =>
      rw [row?] at meant
      split_ifs at meant with own
      obtain rfl := Option.some.inj meant
      cases piece with
      | text | raw | subquery => exact nomatch own
      | column => rfl
      | field reference => exact if_pos (of_decide_eq_true own)

theorem isUncaptured_of_row? {row : BatchRow} (meant : part.row? entity = some row) :
    part.IsUncaptured entity qualifier ↔ ¬qualifier.IsValuesName := by
  rw [← BatchRow.knownBy_name_iff row, IsUncaptured, qualifier?_of_row? meant, meant]
  simp

theorem qualifier?_of_foreign (foreign : part.row? entity = none) :
    part.qualifier? entity qualifier = part.foreignTable? entity := by
  cases part with
  | stored | given => exact nomatch foreign
  | asked piece =>
      cases piece with
      | text | raw | subquery => rfl
      | column => exact nomatch foreign
      | field reference =>
          by_cases own : reference.owner.identity = entity.identity
          · simp [row?, Piece.isOwn, own] at foreign
          · simp [qualifier?, Piece.qualifier?, foreignTable?, own]

theorem foreignTable?_of_row? {row : BatchRow} (meant : part.row? entity = some row) :
    part.foreignTable? entity = none := by
  cases part with
  | stored | given => rfl
  | asked piece =>
      cases piece with
      | text | raw | subquery | column => rfl
      | field reference =>
          rw [row?] at meant
          split_ifs at meant with own
          exact if_pos (of_decide_eq_true own)

theorem isUncaptured_of_foreign (foreign : part.row? entity = none) :
    part.IsUncaptured entity qualifier ↔
      ∀ table, part.foreignTable? entity = some table → ¬table.IsValuesName := by
  rw [IsUncaptured, foreign, qualifier?_of_foreign foreign]
  exact forall₂_congr fun table _ => not_congr BatchRow.given_mem_knownBy_iff

theorem mem_separated {separator : String} {groups : List (List BatchPart)}
    {group : List BatchPart} (inside : part ∈ group) (member : group ∈ groups) :
    part ∈ separated separator groups := by
  induction groups with
  | nil => exact nomatch member
  | cons first rest ih =>
      cases rest with
      | nil =>
          obtain rfl := List.mem_singleton.1 member
          exact inside
      | cons second others =>
          rw [separated]
          · rcases List.mem_cons.1 member with rfl | later
            · exact List.mem_append_left _ inside
            · exact List.mem_append_right _ (List.mem_cons_of_mem _ (ih later))
          · exact nofun

end BatchPart

namespace Plan

variable {plan : Plan} {records : List Record} {statement : Statement}

/-- The statement consists of the parts of a batch update of the plan, and a part with a name in
front of it is a column that is written with this name. -/
structure ConsistsOf (plan : Plan) (records : List Record) (statement : Statement) (scope : Scope)
    (qualifier : Ident) (parts : List BatchPart) : Prop where
  resolved : plan.scope = .ok scope
  qualified : scope.qualifier = .ok qualifier
  laid : ∃ source record rest, scope.source = .ok source ∧ records = record :: rest ∧
    parts = plan.batchParts source (knownFields plan.entity record) records
  written : BatchPart.formatAll scope parts = .ok statement.toFragment
  columns : ∀ part ∈ parts, ∀ name, part.qualifier? plan.entity qualifier = some name →
    ∃ column, part.format scope = .ok (.ofText (name.qualified column))

theorem exists_consistsOf (updated : plan.updateBatch records = .ok statement) :
    ∃ scope qualifier parts, plan.ConsistsOf records statement scope qualifier parts ∧
      ∃ column, .stored column ∈ parts := by
  obtain ⟨record, rest, rfl, faultless, scope, source, returned, qualifier, items, writable,
    qualified, filtered, rfl⟩ := updateBatch_eq_ok.1 updated
  have written := formatAll_batchParts source (knownFields plan.entity record)
    (record :: rest) writable.resolved qualified filtered writable.shown
  refine ⟨scope, qualifier, _, ⟨writable.resolved, qualified,
    ⟨source, record, rest, writable.sourced, rfl, rfl⟩, written, ?_⟩, ?_⟩
  · intro part member name named
    obtain ⟨fragment, shown⟩ := BatchPart.exists_of_formatAll written part member
    rw [← entity_of_scope writable.resolved] at named
    obtain ⟨column, rfl⟩ := BatchPart.format_of_qualifier? qualified named shown
    exact ⟨column, shown⟩
  · have keyed : plan.entity.primaryFields ≠ [] := fun nothing =>
      (@FilterClause.batchKeys_ne_nil qualifier _ _ faultless) (by rw [nothing]; rfl)
    obtain ⟨field, member⟩ := List.exists_mem_of_ne_nil _ keyed
    have inside : .stored field.column ∈
        BatchPart.separated " AND " (plan.entity.primaryFields.map BatchPart.ofKey) :=
      BatchPart.mem_separated List.mem_cons_self (List.mem_map_of_mem member)
    refine ⟨field.column, ?_⟩
    unfold batchParts
    exact List.mem_append_left _ (List.mem_append_left _ (List.mem_append_right _ inside))

/-- In a batch update every column belongs to the one row that it is meant for, and no column of
another entity to the row of values, exactly if neither the qualifier of the table nor a table of
such a column has the name of the list of values. -/
theorem uncaptured_iff (updated : plan.updateBatch records = .ok statement) :
    ∃ scope qualifier parts, plan.ConsistsOf records statement scope qualifier parts ∧
      ((∀ part ∈ parts, part.IsUncaptured plan.entity qualifier) ↔
        ¬qualifier.IsValuesName ∧
          ∀ table ∈ parts.filterMap (BatchPart.foreignTable? plan.entity), ¬table.IsValuesName) := by
  obtain ⟨scope, qualifier, parts, consists, column, keyed⟩ := exists_consistsOf updated
  refine ⟨scope, qualifier, parts, consists, ?_⟩
  constructor
  · intro uncaptured
    refine ⟨(BatchPart.isUncaptured_of_row? rfl).1 (uncaptured _ keyed), ?_⟩
    intro table foreign
    obtain ⟨part, member, shown⟩ := List.mem_filterMap.1 foreign
    cases meant : part.row? plan.entity with
    | some row => exact nomatch (BatchPart.foreignTable?_of_row? meant).symm.trans shown
    | none => exact (BatchPart.isUncaptured_of_foreign meant).1 (uncaptured part member) table shown
  · rintro ⟨apart, others⟩ part member
    cases meant : part.row? plan.entity with
    | some row => exact (BatchPart.isUncaptured_of_row? meant).2 apart
    | none =>
        refine (BatchPart.isUncaptured_of_foreign meant).2 fun table shown => ?_
        exact others table (List.mem_filterMap.2 ⟨part, member, shown⟩)

end Plan

namespace Sample

/-- The notes of accounts under an alias. -/
def notesAs (tableAlias : String) : Plan := { notesWhere [] with tableAlias := some tableAlias }

/-- The notes of the account with the number of a picture, under an alias. -/
def picturedAs (tableAlias : String) : Plan :=
  { notesWhere
      [.condition (.compare .equalTo (.name "id") (.field ⟨picture, "id", .refl true⟩))] with
    tableAlias := some tableAlias }

end Sample

/-- A table of pictures is not taken for the list of values, nor is the alias. -/
theorem Plan.uncaptured_of_pictured : ∃ statement scope qualifier parts,
    (Sample.picturedAs "a?").updateBatch Sample.renoted = .ok statement ∧
      (Sample.picturedAs "a?").ConsistsOf Sample.renoted statement scope qualifier parts ∧
      ∀ part ∈ parts, part.IsUncaptured Sample.account qualifier := by
  have updated : (Sample.picturedAs "a?").updateBatch Sample.renoted = .ok _ := rfl
  obtain ⟨scope, qualifier, parts, consists, uncaptured⟩ := Plan.uncaptured_iff updated
  refine ⟨_, scope, qualifier, parts, rfl, consists, uncaptured.2 ?_⟩
  obtain rfl : ⟨Sample.account, some ⟨"a?", by decide, by decide⟩⟩ = scope :=
    Except.ok.inj ((rfl : _ = _).trans consists.resolved)
  obtain rfl : ⟨"a?", by decide, by decide⟩ = qualifier :=
    Except.ok.inj ((rfl : _ = _).trans consists.qualified)
  obtain ⟨source, record, rest, -, held, rfl⟩ := consists.laid
  obtain ⟨rfl, rfl⟩ := List.cons.inj held
  have tables : ((Sample.picturedAs "a?").batchParts source
      (knownFields Sample.account [("id", .integer 1), ("note", .string "x")])
      Sample.renoted).filterMap (BatchPart.foreignTable? Sample.account) =
      [⟨"picture", by decide, by decide⟩] := rfl
  refine ⟨by decide, ?_⟩
  exact tables ▸ by decide

/-- Under the alias `v`, the equation of the key compares a column with itself, and the column
belongs to both rows. -/
theorem Plan.captured_of_v :
    (Sample.notesAs "v").updateBatch Sample.renoted = .ok
        ⟨"UPDATE account AS v SET \"note?\" = v.\"note?\" FROM (VALUES (?::bigint, ?::text)) " ++
          "AS v(id, \"note?\") WHERE v.id = v.id RETURNING v.\"note?\"",
          [.integer 1, .string "x"], ["note"]⟩ ∧
      BatchRow.knownBy ⟨"v", by decide, by decide⟩ valuesName = [.stored, .given] := by
  exact ⟨rfl, by decide⟩

end EntityQuery

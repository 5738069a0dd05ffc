import EntityQuery.Proofs.Expr.Pieces
import EntityQuery.Proofs.Fragment.Balance

/-!
# Silent expressions

An expression is silent if nothing is written for it.  Such are raw fragments without text, and AND
and OR over nothing but silent items, as conditions or as groups, at any depth.  Whether an
expression is silent does not depend on the scope it is formatted in.
-/

namespace EntityQuery

open Outcome

/-- Nothing is written for the expression. -/
inductive Expr.IsSilent : Expr → Prop
  | raw {fragment : Fragment} : fragment.text = "" → IsSilent (.raw fragment)
  | group {connective : Junction} {items : List Expr} :
      (∀ item ∈ items, IsSilent item) → IsSilent (.group connective items)
  | items {connective : Junction} {items : List Expr} :
      (∀ item ∈ items, IsSilent item) → IsSilent (.condition (.junction connective (.list items)))
  | operand {connective : Junction} {operand : Expr} :
      IsSilent operand → IsSilent (.condition (.junction connective operand))

namespace Piece

variable {parts : List (List Piece)} {pieces : List Piece}

@[simp]
theorem all_parenthesized (pieces : List Piece) :
    (parenthesized pieces).all isBlank = false := by
  have opened : (keyword "(").isBlank = false := by decide
  rw [parenthesized, List.cons_append, List.all_cons, opened, Bool.false_and]

theorem all_rowOperand (items : List Expr) (parts : List (List Piece)) :
    (rowOperand items parts).all isBlank = false := by
  unfold rowOperand
  cases Expr.values? items with
  | none => exact all_parenthesized _
  | some values => simp [isBlank, Fragment.isEmpty_bound]

/-- Parts are combined to nothing exactly if they are all blank. -/
theorem all_combine (connective : Junction) (parts : List (List Piece)) :
    (combine connective parts).all isBlank = true ↔ ∀ part ∈ parts, part.all isBlank = true := by
  have blank : (∀ part ∈ parts, part.all isBlank = true) ↔ shown parts = [] := by
    simp [shown, List.filter_eq_nil_iff]
  rw [blank, combine]
  cases remaining : shown parts with
  | nil => simp [grouped]
  | cons part rest =>
      have visible : part.all isBlank = false := by
        have member : part ∈ shown parts := remaining ▸ List.mem_cons_self
        simpa using (List.mem_filter.1 member).2
      cases rest with
      | nil => simp [grouped, visible]
      | cons next more => simp [grouped]

theorem all_afterTarget (target : Target) (operator : Operator) (pieces : List Piece) :
    (target.piece :: .text (infixKeyword operator) :: pieces).all isBlank = false := by
  have written : (text (infixKeyword operator)).isBlank = false :=
    Fragment.isEmpty_ofText (by simp)
  rw [List.all_cons, List.all_cons, written, Bool.false_and, Bool.and_false]

theorem all_afterKeyword (operator : Operator) (pieces : List Piece) :
    (.text (leadingKeyword operator) :: pieces).all isBlank = false := by
  have written : (text (leadingKeyword operator)).isBlank = false :=
    Fragment.isEmpty_ofText (by simp)
  rw [List.all_cons, written, Bool.false_and]

end Piece

theorem Expr.mem_piecesOfEach {items : List Expr} {part : List Piece} :
    part ∈ Expr.piecesOfEach items ↔ ∃ item ∈ items, item.pieces = part := by
  induction items with
  | nil => simp [Expr.piecesOfEach]
  | cons item rest ih => simp [Expr.piecesOfEach, ih, eq_comm]

namespace Condition

theorem exists_pieces_between (target : Target) (bounds : Expr) : ∃ rest,
    (between target bounds).pieces = target.piece :: .text (infixKeyword .between) :: rest := by
  cases bounds with
  | value held => cases held <;> exact ⟨_, rfl⟩
  | _ => exact ⟨_, rfl⟩

theorem exists_pieces_isIn (target : Target) (choices : Expr) : ∃ rest,
    (isIn target choices).pieces = target.piece :: .text (infixKeyword .isIn) :: rest := by
  cases choices with
  | value held => cases held <;> exact ⟨_, rfl⟩
  | _ => exact ⟨_, rfl⟩

/-- Every condition but AND and OR has a keyword that is always written. -/
theorem exists_junction_of_blank {condition : Condition}
    (blank : condition.pieces.all Piece.isBlank = true) :
    ∃ connective operand, condition = .junction connective operand := by
  cases condition with
  | nullTest negated target =>
      have written : (Piece.keyword (" " ++ (Operator.nullTest negated).keyword)).isBlank = false :=
        Fragment.isEmpty_ofText (by simp)
      rw [pieces, List.all_cons, List.all_cons, written, Bool.false_and, Bool.and_false] at blank
      exact absurd blank Bool.false_ne_true
  | compare comparison target operand =>
      rw [pieces, Piece.all_afterTarget] at blank
      exact absurd blank Bool.false_ne_true
  | between target bounds =>
      obtain ⟨rest, same⟩ := exists_pieces_between target bounds
      rw [same, Piece.all_afterTarget] at blank
      exact absurd blank Bool.false_ne_true
  | isIn target choices =>
      obtain ⟨rest, same⟩ := exists_pieces_isIn target choices
      rw [same, Piece.all_afterTarget] at blank
      exact absurd blank Bool.false_ne_true
  | not operand | «exists» operand =>
      rw [pieces, Piece.all_afterKeyword] at blank
      exact absurd blank Bool.false_ne_true
  | quantified quantifier target operand =>
      rw [pieces, List.all_append, Piece.all_afterKeyword, Bool.and_false] at blank
      exact absurd blank Bool.false_ne_true
  | junction connective operand => exact ⟨connective, operand, rfl⟩

end Condition

mutual

theorem Expr.isSilent_of_blank :
    ∀ expr : Expr, expr.pieces.all Piece.isBlank = true → expr.IsSilent
  | .value value, blank => by simp [Expr.pieces, Piece.isBlank, Fragment.isEmpty_bound] at blank
  | .list items, blank => by
      rw [Expr.pieces, Piece.all_rowOperand] at blank
      exact absurd blank Bool.false_ne_true
  | .field reference, blank => by simp [Expr.pieces, Piece.isBlank] at blank
  | .column name, blank => by simp [Expr.pieces, Piece.isBlank] at blank
  | .subquery plan, blank => by simp [Expr.pieces, Piece.isBlank] at blank
  | .raw fragment, blank => by
      simp only [Expr.pieces, Piece.isBlank, List.all_cons, List.all_nil, Bool.and_true] at blank
      exact .raw (Fragment.isEmpty_iff.1 blank)
  | .condition condition, blank => Condition.isSilent_of_blank condition blank
  | .group connective items, blank => .group (Expr.areSilent_of_blank items
      ((Piece.all_combine connective _).1 blank))
  | .unbound, blank => by simp [Expr.pieces, Piece.isBlank, Fragment.isEmpty_unbound] at blank

theorem Expr.areSilent_of_blank : ∀ items : List Expr,
    (∀ part ∈ Expr.piecesOfEach items, part.all Piece.isBlank = true) →
      ∀ item ∈ items, item.IsSilent
  | [], _ => List.forall_mem_nil _
  | item :: rest, blank => by
      obtain ⟨first, others⟩ := List.forall_mem_cons.1 blank
      exact List.forall_mem_cons.2
        ⟨Expr.isSilent_of_blank item first, Expr.areSilent_of_blank rest others⟩

theorem Condition.isSilent_of_blank : ∀ condition : Condition,
    condition.pieces.all Piece.isBlank = true → Expr.IsSilent (.condition condition)
  | .junction connective operand, blank => by
      cases operand with
      | list items =>
          exact .items (Expr.areSilent_of_blank items ((Piece.all_combine connective _).1 blank))
      | _ =>
          exact .operand (Expr.isSilent_of_blank _
            ((Piece.all_combine connective _).1 blank _ List.mem_cons_self))
  | .nullTest _ _, blank | .compare _ _ _, blank | .between _ _, blank | .isIn _ _, blank
  | .not _, blank | .exists _, blank | .quantified _ _ _, blank => by
      obtain ⟨_, _, same⟩ := Condition.exists_junction_of_blank blank
      exact nomatch same

end

/-- An expression is silent exactly if its pieces are all blank. -/
theorem Expr.isSilent_iff_blank {expr : Expr} :
    expr.IsSilent ↔ expr.pieces.all Piece.isBlank = true := by
  refine ⟨fun silent => ?_, expr.isSilent_of_blank⟩
  have blank_of {items : List Expr}
      (each : ∀ item ∈ items, item.pieces.all Piece.isBlank = true) :
      ∀ part ∈ Expr.piecesOfEach items, part.all Piece.isBlank = true := by
    intro part member
    obtain ⟨item, listed, rfl⟩ := Expr.mem_piecesOfEach.1 member
    exact each item listed
  induction silent with
  | raw blank => simpa [Expr.pieces, Piece.isBlank] using Fragment.isEmpty_iff.2 blank
  | group _ ih => exact (Piece.all_combine ..).2 (blank_of ih)
  | items _ ih => exact (Piece.all_combine ..).2 (blank_of ih)
  | @operand connective operand silent ih =>
      have single : operand.isList = false := by cases silent <;> rfl
      rw [Expr.pieces, Condition.pieces_junction_of_single single, Piece.all_combine]
      exact List.forall_mem_singleton.2 ih

instance (expr : Expr) : Decidable expr.IsSilent :=
  decidable_of_iff _ Expr.isSilent_iff_blank.symm

/-- Nothing is written for an expression exactly if it is silent. -/
theorem Expr.text_eq_empty_iff {scope : Scope} {expr : Expr} {fragment : Fragment}
    (formatted : expr.format scope = .ok fragment) : fragment.text = "" ↔ expr.IsSilent := by
  rw [Expr.format_eq_pieces] at formatted
  rw [Expr.isSilent_iff_blank, ← Piece.isEmpty_of_formatAll formatted, Fragment.isEmpty_iff]

example : (Expr.group .and [.condition (.junction .or (.list [.group .or []]))]).IsSilent := by
  decide

/-- The texts of several expressions are all empty exactly if the expressions are silent. -/
theorem Expr.texts_eq_empty_iff {scope : Scope} {items : List Expr} {parts : List Fragment}
    (formatted : Expr.formatAll scope items = .ok parts) :
    (∀ part ∈ parts, part.text = "") ↔ ∀ item ∈ items, item.IsSilent := by
  induction items generalizing parts with
  | nil =>
      obtain rfl := Except.ok.inj formatted
      exact iff_of_true (List.forall_mem_nil _) (List.forall_mem_nil _)
  | cons item rest ih =>
      obtain ⟨first, shown, more⟩ := bind_eq_ok.1 formatted
      obtain ⟨others, othersShown, whole⟩ := bind_eq_ok.1 more
      obtain rfl := pure_eq_ok.1 whole
      rw [List.forall_mem_cons, List.forall_mem_cons, Expr.text_eq_empty_iff shown, ih othersShown]

namespace Fragment

variable {parts : List Fragment}

theorem shown_eq_nil_iff :
    (parts.filter fun part => !part.isEmpty) = [] ↔ ∀ part ∈ parts, part.text = "" := by
  simp only [List.filter_eq_nil_iff, not_isEmpty_iff, not_not]

theorem text_head_ne_empty {part : Fragment} {rest : List Fragment}
    (shown : (parts.filter fun part => !part.isEmpty) = part :: rest) : part.text ≠ "" := by
  have member : part ∈ parts.filter fun part => !part.isEmpty := shown ▸ List.mem_cons_self
  exact not_isEmpty_iff.1 (List.mem_filter.1 member).2

/-- A list is written as nothing exactly if all of its items are. -/
theorem text_joined_eq_empty (separator : String) :
    (joined separator parts).text = "" ↔ ∀ part ∈ parts, part.text = "" := by
  rw [← shown_eq_nil_iff, joined]
  cases shown : parts.filter fun part => !part.isEmpty with
  | nil => simp [intercalate, empty]
  | cons part rest =>
      have visible := text_head_ne_empty shown
      cases rest with
      | nil => simpa [intercalate] using visible
      | cons next more => simp [intercalate, visible]

/-- Combined items are written as nothing exactly if all of them are. -/
theorem text_combine_eq_empty (connective : Junction) :
    (connective.combine parts).text = "" ↔ ∀ part ∈ parts, part.text = "" := by
  rw [← shown_eq_nil_iff, Junction.combine_eq]
  cases shown : parts.filter fun part => !part.isEmpty with
  | nil => simp [Junction.grouped, empty]
  | cons part rest =>
      have visible := text_head_ne_empty shown
      cases rest with
      | nil => simpa [Junction.grouped] using visible
      | cons next more => simp [Junction.grouped, parenthesized]

end Fragment

end EntityQuery

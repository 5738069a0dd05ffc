import EntityQuery.Proofs.Expr.Silence
import EntityQuery.Proofs.Predicate.Structure

/-!
# Emptiness of expressions

Whether an expression is empty is read off the tree, without formatting it: an expression is empty
if it is a group of nothing but empty expressions.  Nothing is written for an empty expression.  But
nothing is written for a raw fragment without text or for an AND or OR over no items either, and
these are not empty, nor is a group that holds one of them.
-/

namespace EntityQuery

mutual

/-- What groups hold at any depth, other than groups.  An expression that is no group is all there
is. -/
def Expr.ungrouped : Expr → List Expr
  | .group _ items => Expr.ungroupedItems items
  | expr => [expr]

def Expr.ungroupedItems : List Expr → List Expr
  | [] => []
  | item :: rest => item.ungrouped ++ Expr.ungroupedItems rest

end

namespace Expr

variable {scope : Scope} {expr : Expr} {fragment : Fragment}

mutual

/-- An expression is empty exactly if it is made of groups alone. -/
theorem isEmpty_iff_ungrouped : ∀ expr : Expr, expr.isEmpty = true ↔ expr.ungrouped = []
  | .group _ items => areEmpty_iff_ungrouped items
  | .value _ | .list _ | .field _ | .column _ | .subquery _ | .raw _ | .condition _ | .unbound =>
      iff_of_false Bool.false_ne_true (List.cons_ne_nil _ _)

theorem areEmpty_iff_ungrouped :
    ∀ items : List Expr, areEmpty items = true ↔ ungroupedItems items = []
  | [] => iff_of_true rfl rfl
  | item :: rest => by
      rw [areEmpty, ungroupedItems, Bool.and_eq_true, List.append_eq_nil_iff,
        isEmpty_iff_ungrouped item, areEmpty_iff_ungrouped rest]

end

theorem isSilent_group_iff {connective : Junction} {items : List Expr} :
    (group connective items).IsSilent ↔ ∀ item ∈ items, item.IsSilent :=
  ⟨fun silent => by cases silent with | group each => exact each, .group⟩

mutual

/-- Groups say nothing of their own: an expression is silent exactly if all that its groups hold
is. -/
theorem isSilent_iff_ungrouped :
    ∀ expr : Expr, expr.IsSilent ↔ ∀ item ∈ expr.ungrouped, item.IsSilent
  | .group _ items => isSilent_group_iff.trans (areSilent_iff_ungrouped items)
  | .value _ | .list _ | .field _ | .column _ | .subquery _ | .raw _ | .condition _ | .unbound =>
      List.forall_mem_singleton.symm

theorem areSilent_iff_ungrouped : ∀ items : List Expr,
    (∀ item ∈ items, item.IsSilent) ↔ ∀ item ∈ ungroupedItems items, item.IsSilent
  | [] => iff_of_true (List.forall_mem_nil _) (List.forall_mem_nil _)
  | item :: rest => by
      rw [ungroupedItems, List.forall_mem_cons, List.forall_mem_append,
        isSilent_iff_ungrouped item, areSilent_iff_ungrouped rest]

end

/-- Nothing is written for an empty expression.  That an expression is not empty means that
something is written for it exactly if not all that its groups hold is silent. -/
theorem isEmpty_predicts_iff (formatted : expr.format scope = .ok fragment) :
    (expr.isEmpty = true → fragment.text = "") ∧
      ((expr.isEmpty = true ↔ fragment.text = "") ↔
        expr.ungrouped = [] ∨ ∃ item ∈ expr.ungrouped, ¬item.IsSilent) := by
  have written : fragment.text = "" ↔ ∀ item ∈ expr.ungrouped, item.IsSilent :=
    (text_eq_empty_iff formatted).trans (isSilent_iff_ungrouped expr)
  rw [isEmpty_iff_ungrouped, written]
  constructor
  · intro nothing
    rw [nothing]
    exact List.forall_mem_nil _
  · constructor
    · intro predicted
      by_cases silent : ∀ item ∈ expr.ungrouped, item.IsSilent
      · exact .inl (predicted.2 silent)
      · push Not at silent
        exact .inr silent
    · rintro (nothing | ⟨item, held, heard⟩)
      · rw [nothing]
        exact iff_of_true rfl (List.forall_mem_nil _)
      · exact iff_of_false (List.ne_nil_of_mem held) fun silent => heard (silent item held)

set_option maxRecDepth 10000 in
/-- The text of a group beside an empty one. -/
theorem isEmpty_predicts_noted : ∃ fragment,
    Sample.noted.format Sample.accounts = .ok fragment ∧
      (Sample.noted.isEmpty = true ↔ fragment.text = "") := by
  obtain ⟨fragment, formatted⟩ : ∃ fragment,
      Sample.noted.format Sample.accounts = .ok fragment := ⟨_, rfl⟩
  refine ⟨fragment, formatted, (isEmpty_predicts_iff formatted).2.2 (.inr ?_)⟩
  exact ⟨.condition (.nullTest true (.name "note")), .tail _ (.head _), by decide⟩

set_option maxRecDepth 10000 in
/-- Nothing is written for an AND of no items nor for a group of a raw fragment without text, and
neither is empty. -/
theorem not_isEmpty_of_noItems :
    (condition (.junction .and (.list []))).format Sample.accounts = .ok ⟨"", []⟩ ∧
      (condition (.junction .and (.list []))).isEmpty = false ∧
      (group .or [.raw ⟨"", []⟩]).format Sample.accounts = .ok ⟨"", []⟩ ∧
      (group .or [.raw ⟨"", []⟩]).isEmpty = false :=
  ⟨rfl, rfl, rfl, rfl⟩

end Expr

end EntityQuery

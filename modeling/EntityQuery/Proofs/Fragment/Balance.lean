import EntityQuery.Proofs.Fragment.Relation

/-!
# Balanced fragments

A balanced fragment starts and ends outside quotes, and its placeholders are as many as its values
and its dangling slots together.  Balance is a property of one fragment; as a relation between a
fragment and itself, weighted by the dangling slots, it goes through formatting.
-/

namespace EntityQuery

open Placeholder

namespace Fragment

attribute [ext] Fragment

@[simp]
theorem text_append (first second : Fragment) :
    (first ++ second).text = first.text ++ second.text :=
  rfl

@[simp]
theorem values_append (first second : Fragment) :
    (first ++ second).values = first.values ++ second.values :=
  rfl

theorem isEmpty_iff {fragment : Fragment} : fragment.isEmpty = true ↔ fragment.text = "" := by
  rw [isEmpty, List.isEmpty_iff, String.toList_eq_nil_iff]

/-- The fragment is closed and has `slots` placeholders more than values. -/
structure Balanced (fragment : Fragment) (slots : Nat) : Prop where
  closed : ClosesQuotes fragment.text
  count_eq : count fragment.text = fragment.values.length + slots

theorem Balanced.append {first second : Fragment} {own others : Nat}
    (firstBalanced : first.Balanced own) (secondBalanced : second.Balanced others) :
    (first ++ second).Balanced (own + others) := by
  refine ⟨firstBalanced.closed.append secondBalanced.closed, ?_⟩
  rw [text_append, firstBalanced.closed.count_append, firstBalanced.count_eq,
    secondBalanced.count_eq, values_append, List.length_append]
  omega

theorem balanced_ofText {text : String} (quiet : IsQuiet text) : (ofText text).Balanced 0 :=
  ⟨quiet.1, quiet.2⟩

private theorem scan_placeholder : ClosesQuotes "?" ∧ count "?" = 1 := ⟨rfl, rfl⟩

theorem balanced_bound (value : Json) : (bound value).Balanced 0 :=
  ⟨scan_placeholder.1, scan_placeholder.2⟩

theorem balanced_unbound : unbound.Balanced 1 := ⟨scan_placeholder.1, scan_placeholder.2⟩

/-- Nothing is lost when a balanced fragment without text is left out. -/
theorem Balanced.eq_zero {fragment : Fragment} {slots : Nat} (balanced : fragment.Balanced slots)
    (isEmpty : fragment.isEmpty = true) : slots = 0 := by
  have counted := balanced.count_eq
  rw [isEmpty_iff.1 isEmpty, isQuiet_empty.2] at counted
  omega

end Fragment

theorem Json.array_eq {items others : List Json} (same : List.Forall₂ Eq items others) :
    Json.array items = .array others := by
  rw [List.forall₂_eq_eq_eq] at same
  rw [same]

namespace FragmentRelation

/-- The relation holds between every balanced fragment, and every bound value, and itself. -/
structure IsReflexive (relation : FragmentRelation) : Prop where
  balanced {fragment : Fragment} : fragment.Balanced 0 → relation.related 0 fragment fragment
  datum (value : Json) : relation.datum value value

/-- A balanced fragment and itself, weighted by its dangling slots. -/
def balance : FragmentRelation where
  related slots first second := first = second ∧ first.Balanced slots
  datum := Eq
  slot := 1
  quiet quiet := ⟨rfl, Fragment.balanced_ofText quiet⟩
  append := by
    rintro own others first _ head _ ⟨rfl, firstBalanced⟩ ⟨rfl, headBalanced⟩
    exact ⟨rfl, firstBalanced.append headBalanced⟩
  isEmpty_eq pair := by rw [pair.1]
  weight_eq_zero pair isEmpty := pair.2.eq_zero isEmpty
  bound := by
    rintro value _ rfl
    exact ⟨rfl, Fragment.balanced_bound value⟩
  unbound := ⟨rfl, Fragment.balanced_unbound⟩
  null := rfl
  array := Json.array_eq

theorem balance_isReflexive : balance.IsReflexive where
  balanced balanced := ⟨rfl, balanced⟩
  datum _ := rfl

end FragmentRelation

end EntityQuery

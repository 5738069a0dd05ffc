import EntityQuery.Proofs.Fragment.Balance
import EntityQuery.Proofs.Placeholder.Replace

/-!
# Inlining one value

One bound value of a fragment gives way to a text.  The relation between a fragment before and after
is weighted by the number of values that gave way: with weight zero nothing changed, and with weight
one the value and its placeholder were at the same index.  A dangling slot, which shifts the values
against the placeholders, weighs two, so that a weight of at most one rules it out.
-/

namespace EntityQuery

open Placeholder

namespace Fragment

variable {literal : Json} {text : String}

/-- The second fragment is the first one with as many literals inlined as the weight says; from two
on, it is only known that both have text. -/
inductive Inlined (literal : Json) (text : String) : Nat → Fragment → Fragment → Prop
  | kept {fragment : Fragment} : fragment.Balanced 0 → Inlined literal text 0 fragment fragment
  | replaced {before after : Fragment} : before.Balanced 0 → after.Balanced 0 →
      Inlined literal text 1 (before ++ .bound literal ++ after) (before ++ .ofText text ++ after)
  | beyond {weight : Nat} {first second : Fragment} : first.isEmpty = false →
      second.isEmpty = false → Inlined literal text (weight + 2) first second

theorem Inlined.here : Inlined literal text 1 (.bound literal) (.ofText text) := by
  have quiet : (ofText "").Balanced 0 := balanced_ofText isQuiet_empty
  have first : ofText "" ++ bound literal ++ ofText "" = bound literal :=
    Fragment.ext (by simp [ofText, bound]) (by simp [ofText, bound])
  have second : ofText "" ++ ofText text ++ ofText "" = ofText text :=
    Fragment.ext (by simp [ofText]) (by simp [ofText])
  rw [← first, ← second]
  exact .replaced quiet quiet

theorem isEmpty_append (first second : Fragment) :
    (first ++ second).isEmpty = (first.isEmpty && second.isEmpty) := by
  rw [Bool.eq_iff_iff, Bool.and_eq_true, isEmpty_iff, isEmpty_iff, isEmpty_iff, text_append,
    String.append_eq_empty_iff]

theorem append_assoc (first second third : Fragment) :
    first ++ second ++ third = first ++ (second ++ third) :=
  Fragment.ext String.append_assoc (List.append_assoc ..)

theorem isEmpty_bound (value : Json) : (bound value).isEmpty = false := by
  simp [isEmpty, bound]

theorem isEmpty_unbound : unbound.isEmpty = false := by
  simp [isEmpty, unbound]

theorem isEmpty_ofText (nonempty : text ≠ "") : (ofText text).isEmpty = false := by
  rw [Bool.eq_false_iff, ne_eq, isEmpty_iff]
  exact nonempty

theorem Inlined.isEmpty_eq (nonempty : text ≠ "") {weight : Nat} {first second : Fragment}
    (inlined : Inlined literal text weight first second) : first.isEmpty = second.isEmpty := by
  cases inlined with
  | kept => rfl
  | replaced => simp [isEmpty_append, isEmpty_bound, isEmpty_ofText nonempty]
  | beyond firstShown secondShown => rw [firstShown, secondShown]

theorem Inlined.weight_eq_zero {weight : Nat} {first second : Fragment}
    (inlined : Inlined literal text weight first second) (isEmpty : first.isEmpty = true) :
    weight = 0 := by
  cases inlined with
  | kept => rfl
  | replaced => simp [isEmpty_append, isEmpty_bound] at isEmpty
  | beyond firstShown => rw [firstShown] at isEmpty; contradiction

theorem Inlined.of_eq {own weight : Nat} {first second : Fragment}
    (inlined : Inlined literal text own first second) (same : own = weight) :
    Inlined literal text weight first second :=
  same ▸ inlined

/-- Fragments that both have text, where more than one literal was inlined. -/
theorem Inlined.many {weight : Nat} {first second : Fragment} (many : 2 ≤ weight)
    (firstShown : first.isEmpty = false) (secondShown : second.isEmpty = false) :
    Inlined literal text weight first second := by
  obtain ⟨more, rfl⟩ := Nat.exists_eq_add_of_le' many
  exact .beyond firstShown secondShown

theorem Inlined.append (nonempty : text ≠ "") {own others : Nat}
    {first second head tail : Fragment} (front : Inlined literal text own first second)
    (back : Inlined literal text others head tail) :
    Inlined literal text (own + others) (first ++ head) (second ++ tail) := by
  have alike := front.isEmpty_eq nonempty
  have backAlike := back.isEmpty_eq nonempty
  by_cases many : 2 ≤ own + others
  case pos =>
      -- Of two literals or more it is only known that both sums have text.
      have shown : first.isEmpty = false ∨ head.isEmpty = false := by
        by_contra hidden
        simp only [not_or, Bool.not_eq_false] at hidden
        have ownZero := front.weight_eq_zero hidden.1
        have othersZero := back.weight_eq_zero hidden.2
        omega
      refine .many many ?_ ?_ <;> rw [isEmpty_append, Bool.and_eq_false_iff]
      · exact shown
      · rwa [← alike, ← backAlike]
  case neg =>
      -- At most one side holds a literal; the other side joins what is around it.
      cases front with
      | kept frontBalanced =>
          cases back with
          | kept backBalanced => exact .kept (frontBalanced.append backBalanced)
          | @replaced before after beforeBalanced afterBalanced =>
              rw [← append_assoc, ← append_assoc, ← append_assoc, ← append_assoc]
              exact (Inlined.replaced (frontBalanced.append beforeBalanced) afterBalanced)
          | beyond => omega
      | replaced beforeBalanced afterBalanced =>
          cases back with
          | kept backBalanced =>
              rw [append_assoc, append_assoc _ _ head]
              exact .replaced beforeBalanced (afterBalanced.append backBalanced)
          | replaced => omega
          | beyond => omega
      | beyond => omega

end Fragment

/-- The relation between a fragment and itself with literals inlined. -/
def FragmentRelation.inlining (literal : Json) {text : String} (nonempty : text ≠ "") :
    FragmentRelation where
  related := Fragment.Inlined literal text
  datum := Eq
  slot := 2
  quiet quiet := .kept (Fragment.balanced_ofText quiet)
  append := Fragment.Inlined.append nonempty
  isEmpty_eq := Fragment.Inlined.isEmpty_eq nonempty
  weight_eq_zero := Fragment.Inlined.weight_eq_zero
  bound := by
    rintro value _ rfl
    exact .kept (Fragment.balanced_bound value)
  unbound := .many (Nat.le_refl 2) Fragment.isEmpty_unbound Fragment.isEmpty_unbound
  null := rfl
  array := Json.array_eq

@[simp]
theorem FragmentRelation.inlining_slot (literal : Json) {text : String} (nonempty : text ≠ "") :
    (FragmentRelation.inlining literal nonempty).slot = 2 :=
  rfl

theorem FragmentRelation.inlining_isReflexive (literal : Json) {text : String}
    (nonempty : text ≠ "") : (FragmentRelation.inlining literal nonempty).IsReflexive where
  balanced balanced := .kept balanced
  datum _ := rfl

end EntityQuery

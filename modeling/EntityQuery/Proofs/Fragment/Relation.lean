import EntityQuery.Clause
import EntityQuery.Proofs.Outcome
import EntityQuery.Proofs.Placeholder.Scan

/-!
# Relations between fragments

Formatting puts fragments together by a few operations: it appends them, leaves out those without
text, and adds quiet texts and placeholders.  A relation between fragments that respects these
operations holds between the results of formatting whenever it holds between the parts.  Every
related pair has a weight; the weights of appended pairs add up, so that a weight can count what a
fragment contains.
-/

namespace EntityQuery

open Placeholder Outcome

/-- A weighted relation between fragments, with the relation between bound values that it rests on,
that goes through every operation of formatting. -/
structure FragmentRelation where
  related : Nat → Fragment → Fragment → Prop
  datum : Json → Json → Prop
  /-- The weight of a placeholder without value. -/
  slot : Nat
  quiet {text : String} : IsQuiet text → related 0 (.ofText text) (.ofText text)
  append {own others : Nat} {first second head tail : Fragment} :
    related own first second → related others head tail →
      related (own + others) (first ++ head) (second ++ tail)
  /-- Either both are left out or none is. -/
  isEmpty_eq {weight : Nat} {first second : Fragment} :
    related weight first second → first.isEmpty = second.isEmpty
  /-- Nothing that counts is ever left out. -/
  weight_eq_zero {weight : Nat} {first second : Fragment} :
    related weight first second → first.isEmpty = true → weight = 0
  bound {first second : Json} : datum first second → related 0 (.bound first) (.bound second)
  unbound : related slot .unbound .unbound
  null : datum .null .null
  array {items others : List Json} :
    List.Forall₂ datum items others → datum (.array items) (.array others)

namespace FragmentRelation

variable {relation : FragmentRelation} {weight own others : Nat} {first second : Fragment}

/-- The fragments of two lists are related one by one, and their weights are `weight` in all. -/
inductive All (relation : FragmentRelation) : Nat → List Fragment → List Fragment → Prop
  | nil : All relation 0 [] []
  | cons {own others : Nat} {first second : Fragment} {rest tail : List Fragment} :
      relation.related own first second → All relation others rest tail →
        All relation (own + others) (first :: rest) (second :: tail)

theorem of_eq (pair : relation.related own first second) (same : own = weight) :
    relation.related weight first second :=
  same ▸ pair

/-- Keywords and punctuation. -/
theorem keyword (relation : FragmentRelation) (text : String) (inert : IsInert text) :
    relation.related 0 (.ofText text) (.ofText text) :=
  relation.quiet (isQuiet_of_isInert text inert)

theorem empty (relation : FragmentRelation) : relation.related 0 .empty .empty :=
  relation.quiet isQuiet_empty

theorem leading {head tail : Fragment} (heads : relation.related 0 head tail)
    (rests : relation.related weight first second) :
    relation.related weight (head ++ first) (tail ++ second) := by
  simpa only [Nat.zero_add] using relation.append heads rests

theorem trailing {head tail : Fragment} (rests : relation.related weight first second)
    (tails : relation.related 0 head tail) :
    relation.related weight (first ++ head) (second ++ tail) :=
  relation.append rests tails

theorem parenthesized (inner : relation.related weight first second) :
    relation.related weight first.parenthesized second.parenthesized :=
  trailing (leading (relation.keyword _ (by decide)) inner) (relation.keyword _ (by decide))

theorem after (keyword : String) (inner : relation.related weight first second)
    (inert : IsInert keyword) :
    relation.related weight (first.after keyword) (second.after keyword) := by
  unfold Fragment.after
  rw [← relation.isEmpty_eq inner]
  split
  case isTrue empty =>
      obtain rfl := relation.weight_eq_zero inner empty
      exact relation.empty
  case isFalse => exact leading (relation.keyword _ inert) inner

namespace All

variable {parts opposite : List Fragment}

theorem singleton (only : relation.related weight first second) :
    relation.All weight [first] [second] :=
  .cons only .nil

theorem append {more further : List Fragment} (front : relation.All own parts opposite)
    (back : relation.All others more further) :
    relation.All (own + others) (parts ++ more) (opposite ++ further) := by
  induction front with
  | nil => simpa using back
  | cons part _ ih => simpa only [List.cons_append, Nat.add_assoc] using All.cons part ih

/-- Pairs none of which weighs anything. -/
theorem of_pairs (paired : List.Forall₂ (relation.related 0) parts opposite) :
    relation.All 0 parts opposite := by
  induction paired with
  | nil => exact .nil
  | cons pair _ ih => exact .cons pair ih

theorem filter (parted : relation.All weight parts opposite) :
    relation.All weight (parts.filter fun part => !part.isEmpty)
      (opposite.filter fun part => !part.isEmpty) := by
  induction parted with
  | nil => exact .nil
  | @cons own others first second rest tail part _ ih =>
      have alike := relation.isEmpty_eq part
      cases isEmpty : first.isEmpty with
      | false => simpa [isEmpty, ← alike] using All.cons part ih
      | true =>
          obtain rfl := relation.weight_eq_zero part isEmpty
          simpa [isEmpty, ← alike] using ih

theorem intercalate (separator : String) (inert : IsInert separator)
    (parted : relation.All weight parts opposite) :
    relation.related weight (.intercalate separator parts) (.intercalate separator opposite) := by
  induction parted with
  | nil => exact relation.empty
  | cons part rests ih =>
      cases rests with
      | nil => exact part
      | cons _ _ => exact relation.append (trailing part (relation.keyword _ inert)) ih

theorem joined (separator : String) (inert : IsInert separator)
    (parted : relation.All weight parts opposite) :
    relation.related weight (.joined separator parts) (.joined separator opposite) :=
  parted.filter.intercalate separator inert

theorem clauses (parted : relation.All weight parts opposite) :
    relation.related weight (.clauses parts) (.clauses opposite) :=
  parted.joined _ (by decide)

/-- Combining items keeps their weight, however many of them have text. -/
theorem combine (parted : relation.All weight parts opposite) (connective : Junction) :
    relation.related weight (connective.combine parts) (connective.combine opposite) := by
  have separatorInert : IsInert connective.separator := by cases connective <;> decide
  have kept := parted.filter
  unfold Junction.combine
  generalize parts.filter (fun part => !part.isEmpty) = shown at kept
  generalize opposite.filter (fun part => !part.isEmpty) = twins at kept
  cases kept with
  | nil => exact relation.empty
  | cons part rests =>
      cases rests with
      | nil => exact part
      | cons next more =>
          exact parenthesized ((All.cons part (.cons next more)).intercalate _ separatorInert)

theorem predicate (keyword : String) (parted : relation.All weight parts opposite)
    (inert : IsInert keyword) :
    relation.related weight (Clause.predicate keyword parts) (Clause.predicate keyword opposite) :=
  FragmentRelation.after keyword (parted.combine .and) inert

theorem listing (keyword : String) (parted : relation.All weight parts opposite)
    (inert : IsInert keyword) :
    relation.related weight (Clause.listing keyword parts) (Clause.listing keyword opposite) := by
  unfold Clause.listing
  cases parted with
  | nil => exact relation.empty
  | cons part rests =>
      exact leading (relation.keyword _ inert) ((All.cons part rests).joined _ (by decide))

end All

end FragmentRelation

end EntityQuery

import EntityQuery.Proofs.Fragment.Relation

/-!
# Fragments that differ in bound values

Two such fragments have the same text, and as many values.  The values correspond to each other:
they are two data of the caller, or arrays that formatting has put together from corresponding
values.
-/

namespace EntityQuery

/-- Two values that were bound for corresponding data: the data themselves, arrays of them, or the
null that stands for no items. -/
inductive Json.Corresponds (related : Json → Json → Prop) : Json → Json → Prop
  | datum {first second : Json} : related first second → Corresponds related first second
  | array {items others : List Json} : List.Forall₂ (Corresponds related) items others →
      Corresponds related (.array items) (.array others)
  | null : Corresponds related .null .null

namespace FragmentRelation

/-- The relation between fragments with the same text and corresponding values. -/
def blind (related : Json → Json → Prop) : FragmentRelation where
  related weight first second := weight = 0 ∧ first.text = second.text ∧
    List.Forall₂ (Json.Corresponds related) first.values second.values
  datum := Json.Corresponds related
  slot := 0
  quiet _ := ⟨rfl, rfl, .nil⟩
  append := by
    rintro _ _ first second head tail ⟨rfl, text, values⟩ ⟨rfl, headText, headValues⟩
    exact ⟨rfl, congrArg₂ (· ++ ·) text headText, List.rel_append values headValues⟩
  isEmpty_eq pair := by rw [Fragment.isEmpty, Fragment.isEmpty, pair.2.1]
  weight_eq_zero pair _ := pair.1
  bound pair := ⟨rfl, rfl, .cons pair .nil⟩
  unbound := ⟨rfl, rfl, .nil⟩
  null := .null
  array := .array

end FragmentRelation

end EntityQuery

import EntityQuery.Clause
import EntityQuery.Proofs.Fragment.Inlining

/-!
# Separated fragments

Lists of columns, tuples and clauses are fragments with a separator between them.  A list that is
put together from two others has the separator once more, and nothing else is added.
-/

namespace EntityQuery.Fragment

variable {separator : String} {parts front back : List Fragment}

/-- Fragments with text are the ones that are kept. -/
theorem not_isEmpty_iff {part : Fragment} : (!part.isEmpty) = true ↔ part.text ≠ "" := by
  rw [Bool.not_eq_true', Bool.eq_false_iff, ne_eq, isEmpty_iff]

@[simp]
theorem text_ofText (text : String) : (ofText text).text = text := rfl

@[simp]
theorem values_ofText (text : String) : (ofText text).values = [] := rfl

@[simp]
theorem append_empty (fragment : Fragment) : fragment ++ empty = fragment :=
  Fragment.ext (by simp [empty]) (by simp [empty])

@[simp]
theorem empty_append (fragment : Fragment) : empty ++ fragment = fragment :=
  Fragment.ext (by simp [empty]) (by simp [empty])

@[simp]
theorem isEmpty_parenthesized (fragment : Fragment) : fragment.parenthesized.isEmpty = false := by
  rw [Bool.eq_false_iff, ne_eq, isEmpty_iff]
  simp [parenthesized]

theorem ofText_append (first second : String) :
    ofText (first ++ second) = ofText first ++ ofText second :=
  Fragment.ext rfl rfl

theorem intercalate_append (frontShown : front ≠ []) (backShown : back ≠ []) :
    intercalate separator (front ++ back) =
      intercalate separator front ++ ofText separator ++ intercalate separator back := by
  induction front with
  | nil => exact absurd rfl frontShown
  | cons first rest ih =>
      cases rest with
      | nil =>
          obtain ⟨next, others, rfl⟩ := List.exists_cons_of_ne_nil backShown
          rfl
      | cons second others =>
          have later := ih (List.cons_ne_nil second others)
          change first ++ ofText separator ++ intercalate separator (second :: others ++ back) = _
          rw [later]
          simp only [intercalate, append_assoc]

theorem values_intercalate (separator : String) (parts : List Fragment) :
    (intercalate separator parts).values = parts.flatMap values := by
  induction parts with
  | nil => rfl
  | cons first rest ih =>
      cases rest with
      | nil => simp [intercalate]
      | cons second others =>
          rw [List.flatMap_cons, ← ih]
          simp [intercalate]

theorem text_intercalate (separator : String) (parts : List Fragment) :
    (intercalate separator parts).text = separator.intercalate (parts.map text) := by
  induction parts with
  | nil => rfl
  | cons first rest ih =>
      cases rest with
      | nil => simp [intercalate]
      | cons second others =>
          rw [List.map_cons, List.map_cons, String.intercalate_cons_cons, ← List.map_cons, ← ih]
          rfl

theorem joined_eq_intercalate (shown : ∀ part ∈ parts, part.text ≠ "") :
    joined separator parts = intercalate separator parts := by
  unfold joined
  rw [List.filter_eq_self.2]
  intro part member
  exact not_isEmpty_iff.2 (shown part member)

theorem values_joined (separator : String) (shown : ∀ part ∈ parts, part.text ≠ "") :
    (joined separator parts).values = parts.flatMap values := by
  rw [joined_eq_intercalate shown, values_intercalate]

/-- The values of the parts that are kept. -/
theorem values_combine_filter (connective : Junction) (parts : List Fragment) :
    (connective.combine parts).values =
      (parts.filter fun part => !part.isEmpty).flatMap values := by
  unfold Junction.combine
  split
  case h_1 nothing => simp [nothing, empty]
  case h_2 only => simp [only]
  case h_3 => simp [parenthesized, values_intercalate]

theorem values_combine (connective : Junction) (shown : ∀ part ∈ parts, part.text ≠ "") :
    (connective.combine parts).values = parts.flatMap values := by
  have kept : (parts.filter fun part => !part.isEmpty) = parts :=
    List.filter_eq_self.2 fun part member => not_isEmpty_iff.2 (shown part member)
  rw [values_combine_filter, kept]

theorem combine_singleton (connective : Junction) {part : Fragment} (shown : part.text ≠ "") :
    connective.combine [part] = part := by
  have kept : ([part].filter fun part => !part.isEmpty) = [part] :=
    List.filter_eq_self.2 fun one member =>
      not_isEmpty_iff.2 (by rwa [List.mem_singleton.1 member])
  unfold Junction.combine
  rw [kept]

theorem joined_append (separator : String) (frontShown : ∃ part ∈ front, part.text ≠ "")
    (backShown : ∃ part ∈ back, part.text ≠ "") :
    joined separator (front ++ back) =
      joined separator front ++ ofText separator ++ joined separator back := by
  have kept : ∀ {parts : List Fragment}, (∃ part ∈ parts, part.text ≠ "") →
      (parts.filter fun part => !part.isEmpty) ≠ [] := by
    rintro parts ⟨part, member, shown⟩ nothing
    have inside : part ∈ parts.filter fun part => !part.isEmpty :=
      List.mem_filter.2 ⟨member, not_isEmpty_iff.2 shown⟩
    rw [nothing] at inside
    exact List.not_mem_nil inside
  unfold joined
  rw [List.filter_append, intercalate_append (kept frontShown) (kept backShown)]

theorem joined_singleton (separator : String) (part : Fragment) (shown : part.text ≠ "") :
    joined separator [part] = part := by
  have alone : ∀ one ∈ [part], one.text ≠ "" := by simpa using shown
  exact joined_eq_intercalate alone

/-- A clause with text is the last one after a single space. -/
theorem clauses_concat {last : Fragment} (shown : ∃ part ∈ parts, part.text ≠ "")
    (lastShown : last.text ≠ "") :
    clauses (parts ++ [last]) = clauses parts ++ ofText " " ++ last := by
  have lastAlone := joined_singleton " " last lastShown
  unfold clauses
  rw [joined_append " " shown ⟨last, List.mem_singleton_self last, lastShown⟩, lastAlone]

/-- A clause with text stands first, whatever follows. -/
theorem exists_clauses_cons {first : Fragment} (shown : first.text ≠ "") (rest : List Fragment) :
    ∃ after, clauses (first :: rest) = first ++ after := by
  unfold clauses joined
  rw [List.filter_cons, if_pos (not_isEmpty_iff.2 shown)]
  cases rest.filter fun part => !part.isEmpty with
  | nil => exact ⟨empty, (append_empty first).symm⟩
  | cons second others =>
      exact ⟨ofText " " ++ intercalate " " (second :: others), append_assoc ..⟩

end EntityQuery.Fragment

import EntityQuery.Proofs.Placeholder.Scan

/-!
# Replacing one placeholder

The placeholder with a given index, counted from the left, gives way to a text.  A closed text in
front of it is kept, and so is everything after it.
-/

namespace EntityQuery.Placeholder

/-- The characters with the placeholder of the index replaced, read from a state. -/
def replacedFrom (state : QuoteState) (index : Nat) (replacement : List Char) :
    List Char → List Char
  | [] => []
  | char :: rest =>
      if isPlaceholder state char then
        match index with
        | 0 => replacement ++ rest
        | index + 1 => char :: replacedFrom (state.next char) index replacement rest
      else char :: replacedFrom (state.next char) index replacement rest

/-- The text with the placeholder of the index replaced; the text itself if it has no such
placeholder. -/
def replaced (sql : String) (index : Nat) (replacement : String) : String :=
  String.ofList (replacedFrom .outside index replacement.toList sql.toList)

theorem replacedFrom_append (state : QuoteState) (index : Nat)
    (replacement first second : List Char) :
    replacedFrom state (countFrom state first + index) replacement (first ++ second) =
      first ++ replacedFrom (state.after first) index replacement second := by
  induction first generalizing state with
  | nil => simp [countFrom, QuoteState.after]
  | cons char rest ih =>
      rw [List.cons_append, List.cons_append, QuoteState.after_cons, ← ih]
      cases placeholder : isPlaceholder state char with
      | true =>
          have next : countFrom state (char :: rest) + index =
              countFrom (state.next char) rest + index + 1 := by
            simp only [countFrom, placeholder, Bool.toNat_true]
            omega
          simp only [next, replacedFrom, placeholder, if_true]
      | false =>
          simp only [replacedFrom, countFrom, placeholder, Bool.toNat_false, Nat.zero_add,
            Bool.false_eq_true, if_false]

theorem replaced_append {before : String} (closed : ClosesQuotes before)
    (after replacement : String) :
    replaced (before ++ "?" ++ after) (count before) replacement =
      before ++ replacement ++ after := by
  have chars : (before ++ "?" ++ after).toList = before.toList ++ '?' :: after.toList := by simp
  rw [replaced, chars, count_eq_countFrom, ← Nat.add_zero (countFrom _ _), replacedFrom_append,
    closed]
  have placeholder : isPlaceholder .outside '?' = true := by decide
  simp only [replacedFrom, placeholder, if_true]
  apply String.toList_injective
  simp

end EntityQuery.Placeholder

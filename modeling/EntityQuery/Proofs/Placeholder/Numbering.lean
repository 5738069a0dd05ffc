import EntityQuery.Proofs.Bytes
import EntityQuery.Proofs.Placeholder.Offsets
import EntityQuery.Proofs.Placeholder.Pieces

/-!
# Numbering changes placeholders only

Numbering replaces the byte of each placeholder by a dollar sign and its number, and keeps all other
bytes.  Neither placeholders nor numbers open or close quotes, so the quoted runs stay what they
were, and no placeholder is left to be numbered again.
-/

namespace EntityQuery

namespace Placeholder

/-- The bytes, the first of which has an offset, with the bytes at further offsets replaced by
`$next`, `$next + 1`, …. -/
def renumbered (start next : Nat) (bytes : Bytes) : List Nat → Bytes
  | [] => bytes
  | offset :: later =>
      bytes.take (offset - start) ++ Bytes.ofText ("$" ++ toString next) ++
        renumbered (offset + 1) (next + 1) (bytes.drop (offset + 1 - start)) later

/-- The quoted runs of a text that is read from a state, the quotes included.  Of a run that is
open, some characters have been read before. -/
def quotedRunsFrom : QuoteState → List Char → List Char → List String
  | .outside, _, [] => []
  | .inside _, opened, [] => [.ofList opened]
  | .outside, _, char :: rest =>
      if char = '\'' ∨ char = '"' then quotedRunsFrom (.inside char) [char] rest
      else quotedRunsFrom .outside [] rest
  | .inside quote, opened, char :: rest =>
      if char = quote then .ofList (opened ++ [char]) :: quotedRunsFrom .outside [] rest
      else quotedRunsFrom (.inside quote) (opened ++ [char]) rest

/-- The parts of a text between quotes, each with its quotes; the last may be unfinished. -/
def quotedRuns (text : String) : List String := quotedRunsFrom .outside [] text.toList

/-- A text differs from another in the numbers that stand for its placeholders, and in nothing
else. -/
structure IsRenumbering (sql text : String) : Prop where
  increasing : (offsets sql).Pairwise (· < ·)
  /-- No offset divides a character. -/
  marked : ∀ offset ∈ offsets sql, ∃ front back,
    sql = front ++ "?" ++ back ∧ front.utf8ByteSize = offset
  bytes_eq : Bytes.ofText text = renumbered 0 1 (Bytes.ofText sql) (offsets sql)
  quotedRuns_eq : quotedRuns text = quotedRuns sql
  unmarked : offsets text = []

theorem renumbered_woven (start next : Nat) (first : String) (later : List String) :
    renumbered start next (Bytes.ofText (woven first (List.replicate later.length "?") later))
        (marksFrom start first later) =
      Bytes.ofText (woven first (numbersFrom next later.length) later) := by
  induction later generalizing start next first with
  | nil => rfl
  | cons second later ih =>
      have front (rest : Bytes) : (Bytes.ofText first ++ rest).take
          (start + first.utf8ByteSize - start) = Bytes.ofText first := by
        rw [Nat.add_sub_cancel_left, ← Bytes.length_ofText, List.take_left]
      have back (rest : Bytes) : (Bytes.ofText first ++ (Bytes.ofText "?" ++ rest)).drop
          (start + first.utf8ByteSize + 1 - start) = rest := by
        have size : start + first.utf8ByteSize + 1 - start =
            (Bytes.ofText first ++ Bytes.ofText "?").length := by
          rw [Nat.add_assoc, Nat.add_sub_cancel_left, List.length_append]
          rfl
        rw [size, ← List.append_assoc, List.drop_left]
      simp only [List.length_cons, List.replicate_succ, woven_cons, marksFrom, renumbered,
        numbersFrom, List.range'_succ, List.map_cons, Bytes.ofText_append, List.append_assoc, front,
        back, ih]

/-- Numbering replaces the bytes at the offsets of the placeholders. -/
theorem ofText_numbered (sql : String) :
    Bytes.ofText (numbered sql) = renumbered 0 1 (Bytes.ofText sql) (offsets sql) := by
  obtain ⟨first, later, pieces⟩ := isNumbering_numbered sql
  have woven := renumbered_woven 0 1 first later
  rwa [pieces.length_eq, ← pieces.sql_eq, ← pieces.text_eq, ← pieces.offsets_eq, eq_comm] at woven

theorem toList_number (next : Nat) :
    ("$" ++ toString next).toList = '$' :: Nat.toDigits 10 next := by
  rw [String.toList_append, Nat.toString_eq_ofList_toDigits, String.toList_ofList,
    String.toList_ofList, List.singleton_append]

theorem numberedFrom_mark (next : Nat) (rest : List Char) :
    numberedFrom .outside next ('?' :: rest) =
      ("$" ++ toString next).toList ++ numberedFrom .outside (next + 1) rest := by
  have placeholder : isPlaceholder .outside '?' = true := by decide
  have unchanged : QuoteState.outside.next '?' = .outside := by decide
  rw [toList_number, numberedFrom, if_pos placeholder, unchanged]

theorem isInert_number (next : Nat) : IsInert ("$" ++ toString next) :=
  isInert_append.2 ⟨by decide, isInert_toString next⟩

theorem countFrom_numberedFrom (state : QuoteState) (next : Nat) (chars : List Char) :
    countFrom state (numberedFrom state next chars) = 0 := by
  induction chars generalizing state next with
  | nil => rfl
  | cons char rest ih =>
      cases placeholder : isPlaceholder state char with
      | true =>
          obtain ⟨rfl, rfl⟩ := isPlaceholder_iff.1 placeholder
          obtain ⟨closed, silent⟩ := isQuiet_of_isInert _ (isInert_number next)
          rw [numberedFrom_mark, countFrom_append, ← count_eq_countFrom, silent, closed, ih]
      | false => simp [numberedFrom, countFrom, placeholder, ih]

theorem offsets_numbered (sql : String) : offsets (numbered sql) = [] := by
  rw [offsets_eq_nil_iff, count_eq_countFrom, numbered, String.toList_ofList,
    countFrom_numberedFrom]

theorem numberedFrom_of_countFrom_eq_zero {state : QuoteState} {chars : List Char} (next : Nat)
    (unmarked : countFrom state chars = 0) : numberedFrom state next chars = chars := by
  induction chars generalizing state with
  | nil => rfl
  | cons char rest ih =>
      rw [countFrom, Nat.add_eq_zero_iff, Bool.toNat_eq_zero] at unmarked
      rw [numberedFrom, unmarked.1, if_neg Bool.false_ne_true, ih unmarked.2]

/-- A text without placeholders stays as it is. -/
theorem numbered_of_offsets_eq_nil {text : String} (unmarked : offsets text = []) :
    numbered text = text := by
  rw [offsets_eq_nil_iff, count_eq_countFrom] at unmarked
  rw [numbered, numberedFrom_of_countFrom_eq_zero 1 unmarked, String.ofList_toList]

/-- Outside quotes, text without quotes adds no quoted run. -/
theorem quotedRunsFrom_unquoted {chars : List Char} (opened rest : List Char)
    (shown : chars ≠ []) (unquoted : ∀ char ∈ chars, char ≠ '\'' ∧ char ≠ '"') :
    quotedRunsFrom .outside opened (chars ++ rest) = quotedRunsFrom .outside [] rest := by
  induction chars generalizing opened with
  | nil => exact absurd rfl shown
  | cons char chars ih =>
      obtain ⟨head, others⟩ := List.forall_mem_cons.1 unquoted
      rw [List.cons_append, quotedRunsFrom, if_neg (not_or.2 head)]
      cases chars with
      | nil => rfl
      | cons next chars => exact ih [] (List.cons_ne_nil next chars) others

theorem quotedRunsFrom_numberedFrom (state : QuoteState) (opened : List Char) (next : Nat)
    (chars : List Char) : quotedRunsFrom state opened (numberedFrom state next chars) =
      quotedRunsFrom state opened chars := by
  induction chars generalizing state opened next with
  | nil => rfl
  | cons char rest ih =>
      cases placeholder : isPlaceholder state char with
      | true =>
          obtain ⟨rfl, rfl⟩ := isPlaceholder_iff.1 placeholder
          have number : ("$" ++ toString next).toList ≠ [] := by
            rw [toList_number]
            exact List.cons_ne_nil _ _
          have mark : quotedRunsFrom .outside opened ('?' :: rest) =
              quotedRunsFrom .outside [] rest := by
            rw [quotedRunsFrom, if_neg (by decide)]
          rw [numberedFrom_mark, quotedRunsFrom_unquoted opened _ number fun char member =>
            ⟨(isInert_number next char member).1, (isInert_number next char member).2.1⟩, ih]
          exact mark.symm
      | false =>
          rw [numberedFrom, placeholder, if_neg Bool.false_ne_true]
          cases state with
          | outside =>
              simp only [quotedRunsFrom, QuoteState.next]
              split <;> exact ih ..
          | inside quote =>
              simp only [quotedRunsFrom, QuoteState.next]
              split
              · rw [ih]
              · exact ih ..

/-- Numbering changes nothing but the placeholders, and a second time nothing at all. -/
theorem isRenumbering_numbered (sql : String) :
    IsRenumbering sql (numbered sql) ∧ numbered (numbered sql) = numbered sql := by
  refine ⟨?_, numbered_of_offsets_eq_nil (offsets_numbered sql)⟩
  constructor
  case increasing => exact pairwise_offsets sql
  case marked =>
      intro offset member
      obtain ⟨front, back, written, -, rfl⟩ := mem_offsets_iff.1 member
      exact ⟨front, back, written, rfl⟩
  case bytes_eq => exact ofText_numbered sql
  case quotedRuns_eq =>
      rw [quotedRuns, numbered, String.toList_ofList, quotedRunsFrom_numberedFrom]
      rfl
  case unmarked => exact offsets_numbered sql

end Placeholder

end EntityQuery

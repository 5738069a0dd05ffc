import EntityQuery.Proofs.Placeholder.Scan

/-!
# Where placeholders are found

The offsets that the scanner finds are those of the question marks in front of which it is outside
quotes, in increasing order.  Offsets count bytes, and each of them lies between two characters.
-/

namespace EntityQuery.Placeholder

theorem offsetsFrom_append (state : QuoteState) (start : Nat) (first second : List Char) :
    offsetsFrom state start (first ++ second) = offsetsFrom state start first ++
      offsetsFrom (state.after first) (start + (String.ofList first).utf8ByteSize) second := by
  induction first generalizing state start with
  | nil => rfl
  | cons char rest ih =>
      have size : start + (String.ofList (char :: rest)).utf8ByteSize =
          start + char.utf8Size + (String.ofList rest).utf8ByteSize := by
        rw [String.ofList_cons, String.utf8ByteSize_append, String.utf8ByteSize_singleton,
          Nat.add_assoc]
      rw [QuoteState.after_cons, size, List.cons_append, offsetsFrom, offsetsFrom, ih]
      split <;> rfl

theorem le_of_mem_offsetsFrom {state : QuoteState} {start offset : Nat} {chars : List Char}
    (member : offset ∈ offsetsFrom state start chars) : start ≤ offset := by
  induction chars generalizing state start with
  | nil => contradiction
  | cons char rest ih =>
      have later (member : offset ∈ offsetsFrom (state.next char) (start + char.utf8Size) rest) :
          start ≤ offset :=
        Nat.le_of_add_right_le (ih member)
      rw [offsetsFrom] at member
      split at member
      case isFalse => exact later member
      case isTrue =>
          rcases List.mem_cons.1 member with rfl | member
          · exact Nat.le_refl _
          · exact later member

theorem pairwise_offsetsFrom (state : QuoteState) (start : Nat) (chars : List Char) :
    (offsetsFrom state start chars).Pairwise (· < ·) := by
  induction chars generalizing state start with
  | nil => exact .nil
  | cons char rest ih =>
      rw [offsetsFrom]
      split
      case isFalse => exact ih _ _
      case isTrue =>
          refine .cons (fun offset member => ?_) (ih _ _)
          exact Nat.lt_of_lt_of_le (Nat.lt_add_of_pos_right char.utf8Size_pos)
            (le_of_mem_offsetsFrom member)

theorem mem_offsetsFrom_iff {state : QuoteState} {start offset : Nat} {chars : List Char} :
    offset ∈ offsetsFrom state start chars ↔ ∃ front back, chars = front ++ '?' :: back ∧
      state.after front = .outside ∧ offset = start + (String.ofList front).utf8ByteSize := by
  constructor
  · intro member
    induction chars generalizing state start with
    | nil => contradiction
    | cons char rest ih =>
        have later (member : offset ∈ offsetsFrom (state.next char) (start + char.utf8Size) rest) :
            ∃ front back, char :: rest = front ++ '?' :: back ∧ state.after front = .outside ∧
              offset = start + (String.ofList front).utf8ByteSize := by
          obtain ⟨front, back, rfl, outside, rfl⟩ := ih member
          refine ⟨char :: front, back, rfl, outside, ?_⟩
          rw [String.ofList_cons, String.utf8ByteSize_append, String.utf8ByteSize_singleton,
            Nat.add_assoc]
        rw [offsetsFrom] at member
        split at member
        case isFalse => exact later member
        case isTrue placeholder =>
            rcases List.mem_cons.1 member with rfl | member
            · obtain ⟨rfl, rfl⟩ := isPlaceholder_iff.1 placeholder
              exact ⟨[], rest, rfl, rfl, rfl⟩
            · exact later member
  · rintro ⟨front, back, rfl, outside, rfl⟩
    rw [offsetsFrom_append, outside]
    exact List.mem_append_right _ List.mem_cons_self

theorem pairwise_offsets (sql : String) : (offsets sql).Pairwise (· < ·) :=
  pairwise_offsetsFrom .outside 0 sql.toList

theorem mem_offsets_iff {sql : String} {offset : Nat} :
    offset ∈ offsets sql ↔ ∃ front back, sql = front ++ "?" ++ back ∧ ClosesQuotes front ∧
      offset = front.utf8ByteSize := by
  unfold offsets
  rw [mem_offsetsFrom_iff]
  constructor
  · rintro ⟨front, back, written, outside, rfl⟩
    refine ⟨.ofList front, .ofList back, ?_, ?_, Nat.zero_add _⟩
    · apply String.toList_injective
      simp [written]
    · unfold ClosesQuotes
      rwa [String.toList_ofList]
  · rintro ⟨front, back, rfl, closed, rfl⟩
    exact ⟨front.toList, back.toList, by simp, closed, by rw [String.ofList_toList, Nat.zero_add]⟩

/-- Behind a closed text, the scanner starts afresh. -/
theorem mem_offsets_append_iff {first : String} (closed : ClosesQuotes first) {second : String}
    {offset : Nat} : offset ∈ offsets (first ++ second) ↔
      offset ∈ offsets first ∨ ∃ later ∈ offsets second, offset = first.utf8ByteSize + later := by
  have shifted : offset ∈ offsetsFrom .outside first.utf8ByteSize second.toList ↔
      ∃ later ∈ offsets second, offset = first.utf8ByteSize + later := by
    unfold offsets
    simp only [mem_offsetsFrom_iff, Nat.zero_add]
    constructor
    · rintro ⟨front, back, written, outside, rfl⟩
      exact ⟨_, ⟨front, back, written, outside, rfl⟩, rfl⟩
    · rintro ⟨_, ⟨front, back, written, outside, rfl⟩, rfl⟩
      exact ⟨front, back, written, outside, rfl⟩
  rw [offsets, String.toList_append, offsetsFrom_append, closed, String.ofList_toList, Nat.zero_add,
    List.mem_append, shifted]
  rfl

theorem offsets_eq_nil_iff {sql : String} : offsets sql = [] ↔ count sql = 0 :=
  List.length_eq_zero_iff.symm

end EntityQuery.Placeholder

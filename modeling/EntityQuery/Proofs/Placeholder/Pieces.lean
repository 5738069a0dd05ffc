import EntityQuery.Proofs.Placeholder.Scan

/-!
# The pieces between placeholders

The placeholders of a text cut it into pieces: a first one, and one after each placeholder.  The
text is its pieces with question marks between them, and its placeholders stand where these are.
Numbering the text puts `$1`, `$2`, … between the same pieces.
-/

namespace EntityQuery.Placeholder

/-- The pieces of a text that is read from a state: the first one and the later ones. -/
def piecesFrom (state : QuoteState) : List Char → String × List String
  | [] => ("", [])
  | char :: rest =>
      let (first, later) := piecesFrom (state.next char) rest
      if isPlaceholder state char then ("", first :: later)
      else (String.singleton char ++ first, later)

/-- A first piece, and later ones that have a mark each in front of them. -/
def woven (first : String) (marks later : List String) : String :=
  first ++ String.join (List.zipWith (· ++ ·) marks later)

/-- The byte offsets of the marks, if each of them is one byte and the first piece starts at an
offset. -/
def marksFrom (offset : Nat) (first : String) : List String → List Nat
  | [] => []
  | next :: later =>
      let mark := offset + first.utf8ByteSize
      mark :: marksFrom (mark + 1) next later

/-- The marks `$next`, `$next + 1`, …, as many as given. -/
def numbersFrom (next count : Nat) : List String :=
  (List.range' next count).map fun number => "$" ++ toString number

/-- A text cut at so many placeholders, and the text with `$1`, `$2`, … in their places. -/
structure IsNumbering (sql text : String) (count : Nat) (first : String) (later : List String) :
    Prop where
  length_eq : later.length = count
  sql_eq : sql = woven first (List.replicate count "?") later
  offsets_eq : offsets sql = marksFrom 0 first later
  text_eq : text = woven first (numbersFrom 1 count) later

theorem woven_cons (first next mark : String) (marks later : List String) :
    woven first (mark :: marks) (next :: later) = first ++ mark ++ woven next marks later := by
  simp only [woven, List.zipWith_cons_cons, String.join_cons, String.append_assoc]

theorem woven_append (front first : String) (marks later : List String) :
    woven (front ++ first) marks later = front ++ woven first marks later :=
  String.append_assoc

theorem piecesFrom_length (state : QuoteState) (chars : List Char) :
    (piecesFrom state chars).2.length = countFrom state chars := by
  induction chars generalizing state with
  | nil => rfl
  | cons char rest ih =>
      cases placeholder : isPlaceholder state char <;>
        simp [piecesFrom, countFrom, placeholder, ih, Nat.add_comm]

theorem woven_questionMarks (state : QuoteState) (chars : List Char) :
    woven (piecesFrom state chars).1 (List.replicate (countFrom state chars) "?")
      (piecesFrom state chars).2 = String.ofList chars := by
  induction chars generalizing state with
  | nil => rfl
  | cons char rest ih =>
      rw [String.ofList_cons, ← ih (state.next char)]
      cases placeholder : isPlaceholder state char with
      | true =>
          -- The mark that goes back between the pieces is the character that was taken out.
          obtain ⟨-, rfl⟩ := isPlaceholder_iff.1 placeholder
          simp only [piecesFrom, countFrom, placeholder, if_true, Bool.toNat_true,
            Nat.add_comm 1, List.replicate_succ, woven_cons]
          rfl
      | false =>
          simp only [piecesFrom, countFrom, placeholder, Bool.false_eq_true, if_false,
            Bool.toNat_false, Nat.zero_add, woven_append]

theorem marksFrom_append (offset : Nat) (front first : String) (later : List String) :
    marksFrom offset (front ++ first) later =
      marksFrom (offset + front.utf8ByteSize) first later := by
  cases later with
  | nil => rfl
  | cons next later => simp only [marksFrom, String.utf8ByteSize_append, Nat.add_assoc]

theorem offsetsFrom_eq_marksFrom (state : QuoteState) (offset : Nat) (chars : List Char) :
    offsetsFrom state offset chars =
      marksFrom offset (piecesFrom state chars).1 (piecesFrom state chars).2 := by
  induction chars generalizing state offset with
  | nil => rfl
  | cons char rest ih =>
      cases placeholder : isPlaceholder state char with
      | true =>
          obtain ⟨-, rfl⟩ := isPlaceholder_iff.1 placeholder
          simp only [offsetsFrom, piecesFrom, placeholder, if_true, ih, marksFrom]
          rfl
      | false =>
          have size : (String.singleton char).utf8ByteSize = char.utf8Size := by simp
          simp only [offsetsFrom, piecesFrom, placeholder, Bool.false_eq_true, if_false, ih,
            marksFrom_append, size]

theorem woven_numbers (state : QuoteState) (next : Nat) (chars : List Char) :
    woven (piecesFrom state chars).1 (numbersFrom next (countFrom state chars))
      (piecesFrom state chars).2 = String.ofList (numberedFrom state next chars) := by
  induction chars generalizing state next with
  | nil => rfl
  | cons char rest ih =>
      cases placeholder : isPlaceholder state char with
      | true =>
          have number : String.ofList (Nat.toDigits 10 next) = toString next :=
            Nat.toString_eq_ofList_toDigits.symm
          simp only [piecesFrom, countFrom, numberedFrom, numbersFrom, placeholder, if_true,
            Bool.toNat_true, Nat.add_comm 1, List.range'_succ, List.map_cons, woven_cons]
          rw [← numbersFrom, ih, List.cons_append, String.ofList_cons, String.ofList_append, number]
          rfl
      | false =>
          simp only [piecesFrom, countFrom, numberedFrom, placeholder, Bool.false_eq_true, if_false,
            Bool.toNat_false, Nat.zero_add, woven_append, String.ofList_cons, ih]

/-- Numbering puts `$1`, `$2`, … exactly in the places of the placeholders. -/
theorem isNumbering_numbered (sql : String) :
    ∃ first later, IsNumbering sql (numbered sql) (count sql) first later := by
  refine ⟨(piecesFrom .outside sql.toList).1, (piecesFrom .outside sql.toList).2, ?_⟩
  rw [count_eq_countFrom]
  constructor
  case length_eq => exact piecesFrom_length .outside sql.toList
  case sql_eq => rw [woven_questionMarks, String.ofList_toList]
  case offsets_eq => exact offsetsFrom_eq_marksFrom .outside 0 sql.toList
  case text_eq => rw [woven_numbers, numbered]

end EntityQuery.Placeholder

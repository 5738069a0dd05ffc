import EntityQuery.Proofs.Placeholder.Offsets

/-!
# Text as SQL quotes it

SQL text consists of plain runs, literals between single quotes and identifiers between double ones.
Inside quotes every character may stand, and the quote itself is written twice.  The scanner finds
exactly the question marks of the plain runs, also where quoted segments follow each other without
anything in between.
-/

namespace EntityQuery.Placeholder

/-- A run of text without quotes. -/
structure PlainRun where
  text : String
  unquoted : ∀ char ∈ text.toList, char ≠ '\'' ∧ char ≠ '"'

/-- What a quoted segment stands between. -/
inductive Quote
  | single
  | double
  deriving DecidableEq

def Quote.char : Quote → Char
  | .single => '\''
  | .double => '"'

/-- A part of an SQL text. -/
inductive Segment
  | plain (run : PlainRun)
  | quoted (quote : Quote) (content : String)

namespace Segment

def text : Segment → String
  | .plain run => run.text
  | .quoted quote content => String.ofList (quotedRun quote.char content.toList)

/-- The text that segments make up. -/
def joined (segments : List Segment) : String := String.join (segments.map text)

/-- At the byte offset stands a question mark of a plain run. -/
def MarkedAt (segments : List Segment) (offset : Nat) : Prop :=
  ∃ before run after front back, segments = before ++ .plain run :: after ∧
    run.text = front ++ "?" ++ back ∧ offset = (joined before ++ front).utf8ByteSize

theorem joined_cons (segment : Segment) (rest : List Segment) :
    joined (segment :: rest) = segment.text ++ joined rest :=
  String.join_cons

end Segment

theorem PlainRun.mem_offsets_iff (run : PlainRun) {offset : Nat} :
    offset ∈ offsets run.text ↔
      ∃ front back, run.text = front ++ "?" ++ back ∧ offset = front.utf8ByteSize := by
  rw [Placeholder.mem_offsets_iff]
  refine exists_congr fun front => exists_congr fun back => ?_
  refine and_congr_right fun written => and_iff_right (closesQuotes_of_unquoted ?_)
  intro char member
  refine run.unquoted char ?_
  rw [written, String.toList_append, String.toList_append]
  exact List.mem_append_left _ (List.mem_append_left _ member)

theorem Quote.isQuote (quote : Quote) : quote.char = '\'' ∨ quote.char = '"' := by
  cases quote with
  | single => exact .inl rfl
  | double => exact .inr rfl

namespace Segment

theorem closesQuotes_text (segment : Segment) : ClosesQuotes segment.text := by
  cases segment with
  | plain run => exact closesQuotes_of_unquoted run.unquoted
  | quoted quote content => exact (isQuiet_quotedRun quote.isQuote content.toList).1

theorem not_mem_offsets_quoted (quote : Quote) (content : String) (offset : Nat) :
    offset ∉ offsets (quoted quote content).text := by
  have silent := (isQuiet_quotedRun quote.isQuote content.toList).2
  rw [text, offsets_eq_nil_iff.2 silent]
  exact List.not_mem_nil

/-- A mark stands in the first segment or in one of the others. -/
theorem markedAt_cons_iff {segment : Segment} {rest : List Segment} {offset : Nat} :
    MarkedAt (segment :: rest) offset ↔ offset ∈ offsets segment.text ∨
      ∃ later, MarkedAt rest later ∧ offset = segment.text.utf8ByteSize + later := by
  constructor
  · rintro ⟨before, run, after, front, back, parted, written, rfl⟩
    cases before with
    | nil =>
        obtain ⟨rfl, rfl⟩ := List.cons.inj parted
        exact .inl (run.mem_offsets_iff.2 ⟨front, back, written, rfl⟩)
    | cons first others =>
        obtain ⟨rfl, rfl⟩ := List.cons.inj parted
        refine .inr ⟨_, ⟨others, run, after, front, back, rfl, written, rfl⟩, ?_⟩
        rw [joined_cons, String.append_assoc, String.utf8ByteSize_append]
  · rintro (member | ⟨_, ⟨before, run, after, front, back, rfl, written, rfl⟩, rfl⟩)
    · cases segment with
      | plain run =>
          obtain ⟨front, back, written, rfl⟩ := run.mem_offsets_iff.1 member
          exact ⟨[], run, rest, front, back, rfl, written, rfl⟩
      | quoted quote content => exact absurd member (not_mem_offsets_quoted quote content offset)
    · refine ⟨segment :: before, run, after, front, back, rfl, written, ?_⟩
      simp only [joined_cons, String.utf8ByteSize_append, Nat.add_assoc]

theorem mem_offsets_joined_iff {segments : List Segment} {offset : Nat} :
    offset ∈ offsets (joined segments) ↔ MarkedAt segments offset := by
  induction segments generalizing offset with
  | nil =>
      refine iff_of_false List.not_mem_nil ?_
      rintro ⟨before, run, after, front, back, parted, -⟩
      exact List.append_ne_nil_of_right_ne_nil before (List.cons_ne_nil _ after) parted.symm
  | cons segment rest ih =>
      rw [joined_cons, mem_offsets_append_iff segment.closesQuotes_text, markedAt_cons_iff]
      simp only [ih]

/-- The placeholders of a text are the question marks of its plain runs, in increasing order. -/
theorem placeholders_of_segments (segments : List Segment) :
    (offsets (joined segments)).Pairwise (· < ·) ∧
      ∀ offset, offset ∈ offsets (joined segments) ↔ MarkedAt segments offset :=
  ⟨pairwise_offsets (joined segments), fun _ => mem_offsets_joined_iff⟩

end Segment

end EntityQuery.Placeholder

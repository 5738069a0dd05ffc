import EntityQuery.Placeholder
import EntityQuery.Proofs.Ident.Written

/-!
# Scanning text piece by piece

The scanner reads one character at a time, so a text put together from pieces is scanned piece by
piece.  A piece that starts and ends outside quotes does not disturb its neighbours.  Keywords,
numbers and identifiers are quiet: they leave the scanner outside quotes and hold no placeholder,
whatever characters an identifier is made of.
-/

namespace EntityQuery.Placeholder

theorem QuoteState.after_append (state : QuoteState) (first second : List Char) :
    state.after (first ++ second) = (state.after first).after second :=
  List.foldl_append

theorem QuoteState.after_cons (state : QuoteState) (char : Char) (rest : List Char) :
    state.after (char :: rest) = (state.next char).after rest :=
  rfl

theorem QuoteState.next_unquoted {char : Char} (unquoted : char ≠ '\'' ∧ char ≠ '"') :
    QuoteState.outside.next char = .outside :=
  if_neg (not_or.2 unquoted)

theorem isPlaceholder_iff {state : QuoteState} {char : Char} :
    isPlaceholder state char = true ↔ state = .outside ∧ char = '?' := by
  rw [isPlaceholder, Bool.and_eq_true, beq_iff_eq, beq_iff_eq]

/-- The number of placeholders in a text that is read from a state. -/
def countFrom (state : QuoteState) : List Char → Nat
  | [] => 0
  | char :: rest => (isPlaceholder state char).toNat + countFrom (state.next char) rest

theorem offsetsFrom_length (state : QuoteState) (offset : Nat) (chars : List Char) :
    (offsetsFrom state offset chars).length = countFrom state chars := by
  induction chars generalizing state offset with
  | nil => rfl
  | cons char rest ih =>
      cases placeholder : isPlaceholder state char <;>
        simp [offsetsFrom, countFrom, placeholder, ih, Nat.add_comm]

theorem count_eq_countFrom (text : String) :
    count text = countFrom .outside text.toList :=
  offsetsFrom_length .outside 0 text.toList

theorem countFrom_append (state : QuoteState) (first second : List Char) :
    countFrom state (first ++ second) =
      countFrom state first + countFrom (state.after first) second := by
  induction first generalizing state with
  | nil => simp [countFrom, QuoteState.after]
  | cons char rest ih =>
      simp only [List.cons_append, countFrom, QuoteState.after_cons, ih]
      omega

/-- A character that the scanner neither counts nor remembers. -/
def IsInertChar (char : Char) : Prop := char ≠ '\'' ∧ char ≠ '"' ∧ char ≠ '?'

instance (char : Char) : Decidable (IsInertChar char) :=
  inferInstanceAs (Decidable (_ ∧ _))

/-- A text without quotes and question marks. -/
def IsInert (text : String) : Prop := ∀ char ∈ text.toList, IsInertChar char

instance (text : String) : Decidable (IsInert text) :=
  List.decidableBAll IsInertChar text.toList

/-- A text that takes the scanner from outside quotes to outside quotes. -/
def ClosesQuotes (text : String) : Prop := QuoteState.outside.after text.toList = .outside

instance (text : String) : Decidable (ClosesQuotes text) :=
  inferInstanceAs (Decidable (_ = _))

/-- A closed text without placeholders. -/
def IsQuiet (text : String) : Prop := ClosesQuotes text ∧ count text = 0

theorem ClosesQuotes.append {first second : String} (firstClosed : ClosesQuotes first)
    (secondClosed : ClosesQuotes second) : ClosesQuotes (first ++ second) := by
  unfold ClosesQuotes at *
  rw [String.toList_append, QuoteState.after_append, firstClosed, secondClosed]

/-- After a closed text the scanner starts afresh. -/
theorem ClosesQuotes.count_append {first : String} (closed : ClosesQuotes first) (second : String) :
    count (first ++ second) = count first + count second := by
  simp only [count_eq_countFrom, String.toList_append, countFrom_append]
  rw [closed]

theorem IsQuiet.append {first second : String} (firstQuiet : IsQuiet first)
    (secondQuiet : IsQuiet second) : IsQuiet (first ++ second) := by
  refine ⟨firstQuiet.1.append secondQuiet.1, ?_⟩
  rw [firstQuiet.1.count_append, firstQuiet.2, secondQuiet.2]

theorem isQuiet_empty : IsQuiet "" := ⟨rfl, rfl⟩

/-- Text without quotes does not open any. -/
theorem closesQuotes_of_unquoted {text : String}
    (unquoted : ∀ char ∈ text.toList, char ≠ '\'' ∧ char ≠ '"') : ClosesQuotes text := by
  unfold ClosesQuotes
  generalize text.toList = chars at unquoted ⊢
  induction chars with
  | nil => rfl
  | cons char rest ih =>
      obtain ⟨head, others⟩ := List.forall_mem_cons.1 unquoted
      rw [QuoteState.after_cons, QuoteState.next_unquoted head]
      exact ih others

private theorem countFrom_inert {chars : List Char} (inert : ∀ char ∈ chars, IsInertChar char) :
    countFrom .outside chars = 0 := by
  induction chars with
  | nil => rfl
  | cons char rest ih =>
      obtain ⟨⟨noSingle, noDouble, noMark⟩, others⟩ := List.forall_mem_cons.1 inert
      have uncounted : isPlaceholder .outside char = false :=
        Bool.eq_false_iff.2 fun placeholder => noMark (isPlaceholder_iff.1 placeholder).2
      rw [countFrom, uncounted, QuoteState.next_unquoted ⟨noSingle, noDouble⟩, ih others]
      rfl

theorem isQuiet_of_isInert (text : String) (inert : IsInert text) : IsQuiet text := by
  constructor
  · exact closesQuotes_of_unquoted fun char member =>
      ⟨(inert char member).1, (inert char member).2.1⟩
  · exact (count_eq_countFrom text).trans (countFrom_inert inert)

theorem isInert_append {first second : String} :
    IsInert (first ++ second) ↔ IsInert first ∧ IsInert second := by
  simp only [IsInert, String.toList_append, List.mem_append]
  exact ⟨fun inert => ⟨fun char member => inert char (.inl member),
      fun char member => inert char (.inr member)⟩,
    fun inert char member => member.elim (inert.1 char) (inert.2 char)⟩

theorem isInert_toString (number : Nat) : IsInert (toString number) := by
  intro char member
  rw [Nat.toString_eq_ofList_toDigits, String.toList_ofList] at member
  have digit := Nat.isDigit_of_mem_toDigits (by decide) (by decide) member
  refine ⟨?_, ?_, ?_⟩ <;> rintro rfl <;> exact absurd digit (by decide)

/-- The written form of a character between quotes: the quote itself is written twice. -/
def doubled (quote char : Char) : List Char := if char = quote then [quote, quote] else [char]

/-- Characters between quotes. -/
def quotedRun (quote : Char) (content : List Char) : List Char :=
  quote :: content.flatMap (doubled quote) ++ [quote]

/-- A quote inside a quoted run is written twice, which closes the run and reopens it. -/
private theorem scan_doubled {quote : Char} (isQuote : quote = '\'' ∨ quote = '"')
    (content : List Char) :
    (QuoteState.inside quote).after (content.flatMap (doubled quote)) = .inside quote ∧
      countFrom (.inside quote) (content.flatMap (doubled quote)) = 0 := by
  induction content with
  | nil => exact ⟨rfl, rfl⟩
  | cons char rest ih =>
      rw [List.flatMap_cons, QuoteState.after_append, countFrom_append]
      have scanned : (QuoteState.inside quote).after (doubled quote char) = .inside quote ∧
          countFrom (.inside quote) (doubled quote char) = 0 := by
        by_cases same : char = quote
        · subst same
          rcases isQuote with rfl | rfl <;> decide
        · simp [doubled, same, QuoteState.after, QuoteState.next, countFrom, isPlaceholder]
      rw [scanned.1, scanned.2]
      exact ⟨ih.1, by rw [ih.2]⟩

theorem isQuiet_quotedRun {quote : Char} (isQuote : quote = '\'' ∨ quote = '"')
    (content : List Char) : IsQuiet (String.ofList (quotedRun quote content)) := by
  obtain ⟨inside, silent⟩ := scan_doubled isQuote content
  have opened : QuoteState.outside.next quote = .inside quote := by
    rw [QuoteState.next, if_pos isQuote]
  have closing : (QuoteState.inside quote).after [quote] = .outside := by
    rcases isQuote with rfl | rfl <;> decide
  have unmarked : (isPlaceholder .outside quote).toNat + countFrom (.inside quote) [quote] = 0 := by
    rcases isQuote with rfl | rfl <;> decide
  constructor
  · simp only [ClosesQuotes, String.toList_ofList, quotedRun, List.cons_append,
      QuoteState.after_cons, QuoteState.after_append, opened, inside, closing]
  · simpa only [count_eq_countFrom, String.toList_ofList, quotedRun, List.cons_append,
      countFrom, countFrom_append, opened, inside, silent, Nat.zero_add] using unmarked

/-- Texts set apart by a quiet separator are quiet if each of them is. -/
theorem isQuiet_intercalate {separator : String} {texts : List String}
    (separatorQuiet : IsQuiet separator) (quiet : ∀ text ∈ texts, IsQuiet text) :
    IsQuiet (separator.intercalate texts) := by
  induction texts with
  | nil => simpa using isQuiet_empty
  | cons text rest ih =>
      have textQuiet := quiet text (by simp)
      have restQuiet := ih fun other member => quiet other (by simp [member])
      cases rest with
      | nil => simpa using textQuiet
      | cons next rest =>
          rw [String.intercalate_cons_cons]
          exact (textQuiet.append separatorQuiet).append restQuiet

end EntityQuery.Placeholder

namespace EntityQuery.Ident

open Placeholder

private theorem isInertChar_of_isPlainChar {char : Char} (plain : isPlainChar char = true) :
    Placeholder.IsInertChar char := by
  refine ⟨?_, ?_, ?_⟩ <;> rintro rfl <;> exact absurd plain (by decide)

theorem isQuiet_quoted (chars : List Char) : IsQuiet (String.ofList (quoted chars)) :=
  isQuiet_quotedRun (.inr rfl) chars

/-- An identifier in SQL text is quiet, whatever its name. -/
theorem isQuiet_toSql (ident : Ident) : IsQuiet ident.toSql := by
  unfold toSql
  split
  case isFalse => exact isQuiet_quoted ident.name.toList
  case isTrue plain =>
      exact isQuiet_of_isInert _ fun char member =>
        isInertChar_of_isPlainChar (isPlainChar_of_isPlain plain char member)

theorem isQuiet_qualified (qualifier name : Ident) : IsQuiet (qualified qualifier name) :=
  (qualifier.isQuiet_toSql.append (isQuiet_of_isInert _ (by decide))).append name.isQuiet_toSql

end EntityQuery.Ident

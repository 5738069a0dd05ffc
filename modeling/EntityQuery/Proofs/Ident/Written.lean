import EntityQuery.Ident
import Mathlib.Tactic.SplitIfs

/-!
# Written identifiers

Text that ends with an identifier can be read backwards: to the quote that opens a quoted name, in
which a quote is written twice, or over all characters of a plain one.  What stands before the
identifier does not matter, as long as it ends in a character that cannot be part of it.
-/

namespace EntityQuery.Ident

theorem name_of_ofName {name : String} {ident : Ident} (named : ofName name = .ok ident) :
    ident.name = name := by
  unfold ofName at named
  split_ifs at named
  rw [← Except.ok.inj named]

theorem ofName_name (ident : Ident) : ofName ident.name = .ok ident := by
  rw [ofName, dif_neg ident.notEmpty, dif_neg ident.withoutNul]

theorem isPlainChar_of_isPlainStart {char : Char} (plain : isPlainStart char = true) :
    isPlainChar char = true := by
  unfold isPlainStart at plain
  unfold isPlainChar Char.isAlphanum
  rcases Bool.or_eq_true_iff.1 plain with underscore | letter
  · simp [underscore]
  · simp [letter]

theorem isPlainChar_of_isPlain {ident : Ident} (plain : ident.isPlain = true) :
    ∀ char ∈ ident.name.toList, isPlainChar char = true := by
  unfold isPlain at plain
  cases chars : ident.name.toList with
  | nil => exact nofun
  | cons first rest =>
      simp only [chars, isPlainName, Bool.and_eq_true, List.all_eq_true] at plain
      exact List.forall_mem_cons.2 ⟨isPlainChar_of_isPlainStart plain.1, plain.2⟩

/-- The characters up to the quote that ends them, each doubled quote read as one. -/
def readQuoted : List Char → List Char
  | '"' :: '"' :: rest => '"' :: readQuoted rest
  | '"' :: _ => []
  | char :: rest => char :: readQuoted rest
  | [] => []

/-- The characters of the identifier that a text begins with when it is read backwards. -/
def readBackwards : List Char → List Char
  | '"' :: rest => readQuoted rest
  | chars => chars.takeWhile isPlainChar

/-- The name of the identifier at the end of a text. -/
def lastName (text : String) : String := String.ofList (readBackwards text.toList.reverse).reverse

theorem readQuoted_quoteChars (chars rest : List Char) (ends : rest.head? ≠ some '"') :
    readQuoted (chars.flatMap quoteChar ++ '"' :: rest) = chars := by
  induction chars with
  | nil =>
      cases rest with
      | nil => rfl
      | cons next others =>
          have other : next ≠ '"' := fun same => ends (congrArg some same)
          simp [readQuoted, other]
  | cons char others ih =>
      by_cases quote : char = '"'
      · subst quote
        rw [List.flatMap_cons, quoteChar, if_pos rfl]
        exact congrArg _ ih
      · rw [List.flatMap_cons, quoteChar, if_neg quote, List.singleton_append, List.cons_append]
        simp [readQuoted, quote, ih]

/-- A quoted name reads backwards as the reversed name does forwards. -/
theorem reverse_quoted (chars : List Char) : (quoted chars).reverse = quoted chars.reverse := by
  have each (char : Char) : (quoteChar char).reverse = quoteChar char := by
    unfold quoteChar
    split_ifs <;> rfl
  simp [quoted, List.reverse_flatMap, Function.comp_def, each]

theorem readBackwards_plain {chars rest : List Char} (filled : chars ≠ [])
    (plain : ∀ char ∈ chars, isPlainChar char = true)
    (ends : ∀ char ∈ rest.head?, isPlainChar char = false) :
    readBackwards (chars ++ rest) = chars := by
  have taken : (chars ++ rest).takeWhile isPlainChar = chars := by
    rw [List.takeWhile_append_of_pos plain]
    cases rest with
    | nil => simp
    | cons next others =>
        rw [List.takeWhile_cons_of_neg (by simp [ends next rfl]), List.append_nil]
  cases chars with
  | nil => exact absurd rfl filled
  | cons char others =>
      have word : char ≠ '"' := by
        rintro rfl
        exact absurd (plain _ List.mem_cons_self) (by decide)
      simpa [readBackwards, word] using taken

/-- An identifier that stands apart from the text before it is read back from the end. -/
theorem lastName_append (before : String) (ident : Ident)
    (apart : ∀ char ∈ before.toList.getLast?, isPlainChar char = false ∧ char ≠ '"') :
    lastName (before ++ ident.toSql) = ident.name := by
  have ends : ∀ char ∈ before.toList.reverse.head?, isPlainChar char = false ∧ char ≠ '"' := by
    rwa [List.head?_reverse]
  unfold lastName
  rw [String.toList_append, List.reverse_append]
  unfold toSql
  split
  case isTrue plain =>
      rw [readBackwards_plain (by simpa using ident.notEmpty)
        (fun char member => isPlainChar_of_isPlain plain char (List.mem_reverse.1 member))
        (fun char member => (ends char member).1), List.reverse_reverse, String.ofList_toList]
  case isFalse =>
      have opened : before.toList.reverse.head? ≠ some '"' := fun same => (ends _ same).2 rfl
      rw [String.toList_ofList, reverse_quoted, quoted, List.append_assoc, List.cons_append,
        readBackwards, List.singleton_append, readQuoted_quoteChars _ _ opened,
        List.reverse_reverse, String.ofList_toList]

end EntityQuery.Ident

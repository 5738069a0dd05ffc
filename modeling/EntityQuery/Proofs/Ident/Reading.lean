import EntityQuery.Proofs.Placeholder.Scan

/-!
# Reading qualified names

SQL reads a name as a run of letters, digits, underscores and dollar signs, or between double quotes
with each quote inside written twice.  Read in this way, a qualified name is its qualifier, a dot
and the name, whatever characters they are made of.
-/

namespace EntityQuery.Ident

/-- A part of a text of names and dots. -/
inductive NamePart
  | name (text : String)
  | dot
  deriving DecidableEq

/-- What is being read. -/
inductive NameState
  | between
  | word (chars : List Char)
  | quoted (chars : List Char)
  /-- The quote that was read ends the name, unless another one follows. -/
  | closing (chars : List Char)

structure NameReader where
  parts : List NamePart
  state : NameState

/-- Characters of a name without quotes: letters, digits, underscores and dollar signs.  It differs
which characters beyond ASCII are letters. -/
def isNameChar (isForeignLetter : Char → Bool) (char : Char) : Bool :=
  char.isAlphanum || char == '_' || char == '$' || 0x7F < char.toNat && isForeignLetter char

theorem isNameChar_of_isPlainChar {isForeignLetter : Char → Bool} {char : Char}
    (plain : isPlainChar char = true) : isNameChar isForeignLetter char = true := by
  unfold isPlainChar at plain
  unfold isNameChar
  grind

namespace NameReader

variable (isForeignLetter : Char → Bool)

/-- A part begins with a character. -/
def begin (parts : List NamePart) (char : Char) : Option NameReader :=
  if char = '"' then some ⟨parts, .quoted []⟩
  else if char = '.' then some ⟨parts ++ [.dot], .between⟩
  else if isNameChar isForeignLetter char then some ⟨parts, .word [char]⟩
  else none

def step : NameReader → Char → Option NameReader
  | ⟨parts, .between⟩, char => begin isForeignLetter parts char
  | ⟨parts, .word chars⟩, char =>
      if isNameChar isForeignLetter char then some ⟨parts, .word (chars ++ [char])⟩
      else begin isForeignLetter (parts ++ [.name (.ofList chars)]) char
  | ⟨parts, .quoted chars⟩, char =>
      if char = '"' then some ⟨parts, .closing chars⟩ else some ⟨parts, .quoted (chars ++ [char])⟩
  | ⟨parts, .closing chars⟩, char =>
      if char = '"' then some ⟨parts, .quoted (chars ++ [char])⟩
      else begin isForeignLetter (parts ++ [.name (.ofList chars)]) char

def run (reader : NameReader) (chars : List Char) : Option NameReader :=
  chars.foldlM (step isForeignLetter) reader

/-- The parts of a text that ends here. -/
def finish : NameReader → Option (List NamePart)
  | ⟨parts, .between⟩ => some parts
  | ⟨parts, .word chars⟩ | ⟨parts, .closing chars⟩ => some (parts ++ [.name (.ofList chars)])
  | ⟨_, .quoted _⟩ => none

end NameReader

/-- The names and dots that a text consists of. -/
def NamePart.ofText? (isForeignLetter : Char → Bool) (text : String) : Option (List NamePart) :=
  (NameReader.run isForeignLetter ⟨[], .between⟩ text.toList).bind NameReader.finish

namespace NameReader

variable {isForeignLetter : Char → Bool} (parts : List NamePart)

theorem run_cons (reader : NameReader) (char : Char) (rest : List Char) :
    run isForeignLetter reader (char :: rest) =
      (step isForeignLetter reader char).bind fun next => run isForeignLetter next rest :=
  List.foldlM_cons

theorem run_append (reader : NameReader) (first second : List Char) :
    run isForeignLetter reader (first ++ second) =
      (run isForeignLetter reader first).bind fun next => run isForeignLetter next second :=
  List.foldlM_append

/-- A word goes on as long as its characters do. -/
theorem run_word (chars : List Char) {rest : List Char}
    (plain : ∀ char ∈ rest, isPlainChar char = true) :
    run isForeignLetter ⟨parts, .word chars⟩ rest = some ⟨parts, .word (chars ++ rest)⟩ := by
  induction rest generalizing chars with
  | nil =>
      rw [List.append_nil]
      rfl
  | cons char rest ih =>
      obtain ⟨head, others⟩ := List.forall_mem_cons.1 plain
      rw [run_cons, step, if_pos (isNameChar_of_isPlainChar head), Option.bind_some, ih _ others,
        List.append_assoc, List.singleton_append]

/-- A quote inside quotes is read as one, and the name goes on. -/
theorem run_quoteChars (chars content : List Char) :
    run isForeignLetter ⟨parts, .quoted chars⟩ (content.flatMap quoteChar) =
      some ⟨parts, .quoted (chars ++ content)⟩ := by
  induction content generalizing chars with
  | nil =>
      rw [List.append_nil]
      rfl
  | cons char rest ih =>
      have one : run isForeignLetter ⟨parts, .quoted chars⟩ (quoteChar char) =
          some ⟨parts, .quoted (chars ++ [char])⟩ := by
        by_cases quote : char = '"'
        · subst quote
          rfl
        · rw [quoteChar, if_neg quote, run_cons, step, if_neg quote]
          rfl
      rw [List.flatMap_cons, run_append, one, Option.bind_some, ih, List.append_assoc,
        List.singleton_append]

theorem run_quoted (content : List Char) :
    run isForeignLetter ⟨parts, .between⟩ (quoted content) = some ⟨parts, .closing content⟩ := by
  have opened : step isForeignLetter ⟨parts, .between⟩ '"' = some ⟨parts, .quoted []⟩ := rfl
  rw [quoted, List.cons_append, run_cons, opened, Option.bind_some, run_append, run_quoteChars,
    Option.bind_some, List.nil_append]
  rfl

theorem run_plain {chars : List Char} (plain : isPlainName chars = true) :
    run isForeignLetter ⟨parts, .between⟩ chars = some ⟨parts, .word chars⟩ := by
  cases chars with
  | nil => contradiction
  | cons first rest =>
      rw [isPlainName, Bool.and_eq_true, List.all_eq_true] at plain
      obtain ⟨start, others⟩ := plain
      have word : first ≠ '"' ∧ first ≠ '.' := by
        constructor <;> rintro rfl <;> exact absurd start (by decide)
      have begun : step isForeignLetter ⟨parts, .between⟩ first = some ⟨parts, .word [first]⟩ := by
        rw [step, begin, if_neg word.1, if_neg word.2,
          if_pos (isNameChar_of_isPlainChar (isPlainChar_of_isPlainStart start))]
      rw [run_cons, begun, Option.bind_some, run_word parts [first] others, List.singleton_append]

variable (isForeignLetter) in
/-- An identifier is read as its name, which ends before a dot or where the text ends. -/
theorem run_toSql (ident : Ident) : ∃ reader,
    run isForeignLetter ⟨parts, .between⟩ ident.toSql.toList = some reader ∧
      reader.finish = some (parts ++ [.name ident.name]) ∧
      step isForeignLetter reader '.' = some ⟨parts ++ [.name ident.name] ++ [.dot], .between⟩ := by
  unfold toSql
  split
  case isTrue plain =>
      have apart : isNameChar isForeignLetter '.' = false := rfl
      refine ⟨_, run_plain parts plain, ?_, ?_⟩
      · rw [finish, String.ofList_toList]
      · rw [step, apart, String.ofList_toList]
        rfl
  case isFalse =>
      rw [String.toList_ofList]
      refine ⟨_, run_quoted parts ident.name.toList, ?_, ?_⟩
      · rw [finish, String.ofList_toList]
      · rw [step, String.ofList_toList]
        rfl

end NameReader

theorem ofText?_qualified (isForeignLetter : Char → Bool) (qualifier name : Ident) :
    NamePart.ofText? isForeignLetter (qualified qualifier name) =
      some [.name qualifier.name, .dot, .name name.name] := by
  obtain ⟨first, readFirst, -, dotted⟩ := NameReader.run_toSql isForeignLetter [] qualifier
  obtain ⟨second, readSecond, finished, -⟩ :=
    NameReader.run_toSql isForeignLetter [.name qualifier.name, .dot] name
  have written : (qualified qualifier name).toList =
      qualifier.toSql.toList ++ '.' :: name.toSql.toList := by
    rw [qualified, String.toList_append, String.toList_append, List.append_assoc]
    rfl
  have parts : [] ++ [NamePart.name qualifier.name] ++ [.dot] = [.name qualifier.name, .dot] := rfl
  rw [NamePart.ofText?, written, NameReader.run_append, readFirst, Option.bind_some,
    NameReader.run_cons, dotted, Option.bind_some, parts, readSecond, Option.bind_some, finished]
  rfl

theorem eq_of_name_eq {first second : Ident} (same : first.name = second.name) :
    first = second := by
  cases first
  cases second
  obtain rfl := same
  rfl

/-- Different pairs of names are written differently. -/
theorem qualified_inj {qualifier name otherQualifier otherName : Ident} :
    qualified qualifier name = qualified otherQualifier otherName ↔
      qualifier = otherQualifier ∧ name = otherName := by
  constructor
  · intro same
    have read := ofText?_qualified (fun _ => false) qualifier name
    rw [same, ofText?_qualified, Option.some_inj] at read
    injection read with first rest
    injection rest with _ rest
    injection rest with second _
    exact ⟨eq_of_name_eq (NamePart.name.inj first).symm,
      eq_of_name_eq (NamePart.name.inj second).symm⟩
  · rintro ⟨rfl, rfl⟩
    rfl

/-- A qualified name is read as exactly its two names with a dot between them, so that no other pair
is written in the same way, and it leaves the scanner for placeholders outside quotes, with none
found. -/
theorem qualified_decodes (qualifier name : Ident) :
    (∀ isForeignLetter, NamePart.ofText? isForeignLetter (qualified qualifier name) =
        some [.name qualifier.name, .dot, .name name.name]) ∧
      (∀ otherQualifier otherName, qualified qualifier name = qualified otherQualifier otherName ↔
        qualifier = otherQualifier ∧ name = otherName) ∧
      Placeholder.IsQuiet (qualified qualifier name) :=
  ⟨fun isForeignLetter => ofText?_qualified isForeignLetter qualifier name,
    fun _ _ => qualified_inj, isQuiet_qualified qualifier name⟩

end EntityQuery.Ident

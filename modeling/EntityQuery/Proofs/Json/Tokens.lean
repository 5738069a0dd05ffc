import EntityQuery.Proofs.Json.Numbers

/-!
# Tokens of JSON text

The text of a value is cut into the tokens of the value.  A word or a number only ends with the
character after it, so what is known of a piece of text is which tokens it stands for once it has
ended, be it at the end of the whole text or in front of a mark.
-/

namespace EntityQuery

theorem Hexadecimal.value?_digit {value : ℕ} (small : value < 16) :
    value? (digit value) = some value := by
  have all : ∀ value < 16, value? (digit value) = some value := by decide
  exact all value small

namespace Json

/-- A value as reading text gives it, in so many containers at most: whole numbers have at most 64
bits, and objects have no key twice. -/
inductive Readable : ℕ → Json → Prop
  | null {room : ℕ} : Readable room .null
  | bool {room : ℕ} (truth : Bool) : Readable room (.bool truth)
  | integer {room : ℕ} {number : ℤ} (least : -2 ^ 63 ≤ number) (most : number < 2 ^ 64) :
      Readable room (.integer number)
  | real {room : ℕ} (number : Binary64) : Readable room (.real number)
  | string {room : ℕ} (text : String) : Readable room (.string text)
  | array {room : ℕ} {items : List Json} (each : ∀ item ∈ items, Readable room item) :
      Readable (room + 1) (.array items)
  | object {room : ℕ} {entries : Record} (distinct : entries.keys.Nodup)
      (each : ∀ entry ∈ entries, Readable room entry.2) : Readable (room + 1) (.object entries)

mutual

/-- The tokens of a value. -/
def tokens : Json → List Token
  | .array items => .beginArray :: ([Token.comma].intercalate (itemTokens items) ++ [.endArray])
  | .object entries =>
      .beginObject :: ([Token.comma].intercalate (entryTokens entries) ++ [.endObject])
  | value => [.scalar value]

/-- The tokens of each item of an array. -/
def itemTokens : List Json → List (List Token)
  | [] => []
  | item :: rest => item.tokens :: itemTokens rest

/-- The tokens of each entry of an object. -/
def entryTokens : List (String × Json) → List (List Token)
  | [] => []
  | (key, value) :: rest => (.scalar (.string key) :: .colon :: value.tokens) :: entryTokens rest

end

theorem renderItems_eq_map (items : List Json) : renderItems items = items.map render := by
  induction items with
  | nil => rfl
  | cons item rest ih => rw [renderItems, ih, List.map_cons]

theorem itemTokens_eq_map (items : List Json) : itemTokens items = items.map tokens := by
  induction items with
  | nil => rfl
  | cons item rest ih => rw [itemTokens, ih, List.map_cons]

/-- The tokens of an entry of an object. -/
def entryTokensOf (entry : String × Json) : List Token :=
  .scalar (.string entry.1) :: .colon :: entry.2.tokens

/-- The text of an entry of an object. -/
def entryTextOf (entry : String × Json) : String := renderString entry.1 ++ ":" ++ entry.2.render

theorem entryTokens_eq_map (entries : Record) :
    entryTokens entries = entries.map entryTokensOf := by
  induction entries with
  | nil => rfl
  | cons entry rest ih =>
      rw [entryTokens, ih, List.map_cons]
      rfl

theorem renderEntries_eq_map (entries : Record) :
    renderEntries entries = entries.map entryTextOf := by
  induction entries with
  | nil => rfl
  | cons entry rest ih =>
      rw [renderEntries, ih, List.map_cons]
      rfl

/-- The tokenizer has read these tokens, in reverse, once the text ends or goes on with a mark. -/
structure Tokenizer.Completes (tokenizer : Tokenizer) (tokens : List Token) : Prop where
  finished : tokenizer.finish? = some tokens.reverse
  continued : ∀ mark : Char, mark.isLower = false → isNumberChar mark = false →
    tokenizer.step mark = stepBetween tokens mark

/-- A text that stands for some tokens, wherever a token may start. -/
def ReadsAs (chars : List Char) (written : List Token) : Prop :=
  ∀ tokens, ∃ tokenizer, chars.foldlM Tokenizer.step ⟨tokens, .between⟩ = some tokenizer ∧
    tokenizer.Completes (written.reverse ++ tokens)

/-- A character that is a token by itself and ends the token before it. -/
structure IsMark (mark : Char) (token : Token) : Prop where
  noLetter : mark.isLower = false
  noNumber : isNumberChar mark = false
  read : ∀ tokens, Tokenizer.stepBetween tokens mark = some ⟨token :: tokens, .between⟩

theorem isMark_comma : IsMark ',' .comma := ⟨by decide, by decide, fun _ => rfl⟩

theorem isMark_colon : IsMark ':' .colon := ⟨by decide, by decide, fun _ => rfl⟩

theorem readsAs_nil : ReadsAs [] [] :=
  fun tokens => ⟨⟨tokens, .between⟩, rfl, rfl, fun _ _ _ => rfl⟩

/-- Two texts with a mark between them. -/
theorem ReadsAs.mark {front back : List Char} {first second : List Token} {mark : Char}
    {token : Token} (before : ReadsAs front first) (isMark : IsMark mark token)
    (after : ReadsAs back second) :
    ReadsAs (front ++ mark :: back) (first ++ token :: second) := by
  intro tokens
  obtain ⟨tokenizer, read, completes⟩ := before tokens
  obtain ⟨last, readAfter, completesAfter⟩ := after (token :: (first.reverse ++ tokens))
  refine ⟨last, ?_, ?_⟩
  · rw [List.foldlM_append, read, Option.bind_eq_bind, Option.bind_some, List.foldlM_cons,
      completes.continued mark isMark.noLetter isMark.noNumber, isMark.read]
    exact readAfter
  · simpa using completesAfter

/-- Texts with commas between them. -/
theorem readsAs_intercalate {texts : List (List Char)} {tokens : List (List Token)}
    (each : List.Forall₂ ReadsAs texts tokens) :
    ReadsAs ([','].intercalate texts) ([Token.comma].intercalate tokens) := by
  induction each with
  | nil => exact readsAs_nil
  | @cons text token texts tokens first others ih =>
      cases others with
      | nil => simpa using first
      | cons second others =>
          rw [List.intercalate_cons_cons, List.intercalate_cons_cons, List.append_assoc,
            List.append_assoc]
          exact first.mark isMark_comma ih

/-- A text between two marks that open and close a container. -/
theorem ReadsAs.enclosed {chars : List Char} {written : List Token} {opening closing : Char}
    {first last : Token} (inside : ReadsAs chars written) (opens : IsMark opening first)
    (closes : IsMark closing last) :
    ReadsAs (opening :: (chars ++ [closing])) (first :: (written ++ [last])) :=
  readsAs_nil.mark opens (inside.mark closes readsAs_nil)

theorem readsAs_word {letters : List Char} {value : Json}
    (collected : ∀ tokens, letters.foldlM Tokenizer.step ⟨tokens, .between⟩ =
      some ⟨tokens, .word letters.reverse⟩)
    (meant : ofWord? letters = some value) : ReadsAs letters [.scalar value] := by
  refine fun tokens => ⟨_, collected tokens, ?_, fun mark noLetter _ => ?_⟩
  · rw [Tokenizer.finish?]
    dsimp only
    rw [List.reverse_reverse, meant]
    rfl
  · rw [Tokenizer.step]
    dsimp only
    rw [if_neg (Bool.eq_false_iff.1 noLetter), List.reverse_reverse, meant]
    rfl

theorem stepBetween_digit {char : Char} (digit : char.isDigit = true) (tokens : List Token) :
    Tokenizer.stepBetween tokens char = some ⟨tokens, .number [char]⟩ := by
  have apart (other : Char) (noDigit : other.isDigit = false) : char ≠ other := by
    rintro rfl
    exact Bool.noConfusion (digit.symm.trans noDigit)
  unfold Tokenizer.stepBetween
  rw [if_neg (by simp [apart ' ', apart '\t', apart '\n', apart '\r']), if_neg (apart _ rfl),
    if_neg (apart _ rfl), if_neg (apart _ rfl), if_neg (apart _ rfl), if_neg (apart _ rfl),
    if_neg (apart _ rfl), if_neg (apart _ rfl), if_pos (.inr digit)]

/-- A number is collected up to its last character. -/
theorem foldlM_number (tokens : List Token) {rest : List Char}
    (numeric : ∀ char ∈ rest, isNumberChar char = true) (before : List Char) :
    rest.foldlM Tokenizer.step ⟨tokens, .number before⟩ =
      some ⟨tokens, .number (rest.reverse ++ before)⟩ := by
  induction rest generalizing before with
  | nil => rfl
  | cons char rest ih =>
      obtain ⟨first, others⟩ := List.forall_mem_cons.1 numeric
      have step : Tokenizer.step ⟨tokens, .number before⟩ char =
          some ⟨tokens, .number (char :: before)⟩ := if_pos first
      rw [List.foldlM_cons, step, Option.bind_eq_bind, Option.bind_some, ih others,
        List.reverse_cons, List.append_assoc]
      rfl

theorem foldlM_numeral {chars : List Char} (numeral : IsNumeral chars) (tokens : List Token) :
    chars.foldlM Tokenizer.step ⟨tokens, .between⟩ = some ⟨tokens, .number chars.reverse⟩ := by
  have collected {first : Char} {rest : List Char}
      (starts : Tokenizer.stepBetween tokens first = some ⟨tokens, .number [first]⟩)
      (numeric : ∀ char ∈ rest, isNumberChar char = true) :
      (first :: rest).foldlM Tokenizer.step ⟨tokens, .between⟩ =
        some ⟨tokens, .number (first :: rest).reverse⟩ := by
    have step : Tokenizer.step ⟨tokens, .between⟩ first = _ := starts
    rw [List.foldlM_cons, step, Option.bind_eq_bind, Option.bind_some, foldlM_number tokens numeric,
      List.reverse_cons]
  obtain ⟨body, signed, ⟨⟨digit, first, isDigit⟩, numeric⟩⟩ := numeral
  rcases signed with rfl | rfl
  · obtain ⟨rest, rfl⟩ := List.head?_eq_some_iff.1 first
    exact collected (stepBetween_digit isDigit tokens) (List.forall_mem_cons.1 numeric).2
  · exact collected rfl numeric

/-- The text of a number stands for the number. -/
theorem readsAs_number {chars : List Char} {value : Json} (numeral : IsNumeral chars)
    (read : ofNumeral? chars = some value) : ReadsAs chars [.scalar value] := by
  refine fun tokens => ⟨_, foldlM_numeral numeral tokens, ?_, fun mark _ noNumber => ?_⟩
  · rw [Tokenizer.finish?]
    dsimp only
    rw [List.reverse_reverse, read]
    rfl
  · rw [Tokenizer.step]
    dsimp only
    rw [if_neg (Bool.eq_false_iff.1 noNumber), List.reverse_reverse, read]
    rfl

/-- A control character is read from its two last hexadecimal digits. -/
theorem foldlM_control {char : Char} (control : char.toNat < 0x20) (tokens : List Token)
    (chars : List Char) :
    ['\\', 'u', '0', '0', Hexadecimal.digit (char.toNat / 16),
      Hexadecimal.digit (char.toNat % 16)].foldlM Tokenizer.step ⟨tokens, .text chars⟩ =
      some ⟨tokens, .text (char :: chars)⟩ := by
  have whole : (0 * 16 + char.toNat / 16) * 16 + char.toNat % 16 = char.toNat := by omega
  have high : Hexadecimal.value? (Hexadecimal.digit (char.toNat / 16)) = some _ :=
    Hexadecimal.value?_digit (by omega)
  have low : Hexadecimal.value? (Hexadecimal.digit (char.toNat % 16)) = some _ :=
    Hexadecimal.value?_digit (by omega)
  have unit : afterCodeUnit chars none char.toNat = some (.text (char :: chars)) := by
    unfold afterCodeUnit
    dsimp only
    rw [if_neg (by omega), if_neg (by omega), Char.ofNat_toNat]
  have zeros : ['\\', 'u', '0', '0'].foldlM Tokenizer.step ⟨tokens, .text chars⟩ =
      some ⟨tokens, .codeUnit chars none 2 0⟩ := rfl
  have first : Tokenizer.step ⟨tokens, .codeUnit chars none 2 0⟩
      (Hexadecimal.digit (char.toNat / 16)) =
      some ⟨tokens, .codeUnit chars none 1 (0 * 16 + char.toNat / 16)⟩ := by
    rw [Tokenizer.step]
    dsimp only
    rw [high]
    rfl
  have second : Tokenizer.step ⟨tokens, .codeUnit chars none 1 (0 * 16 + char.toNat / 16)⟩
      (Hexadecimal.digit (char.toNat % 16)) = some ⟨tokens, .text (char :: chars)⟩ := by
    rw [Tokenizer.step]
    dsimp only
    rw [low, Option.bind_some, whole, unit]
    rfl
  have written (last : List Char) : '\\' :: 'u' :: '0' :: '0' :: last =
      ['\\', 'u', '0', '0'] ++ last := rfl
  rw [written, List.foldlM_append, zeros, Option.bind_eq_bind, Option.bind_some,
    List.foldlM_cons, first, Option.bind_eq_bind, Option.bind_some, List.foldlM_cons, second]
  rfl

/-- A character inside a string is read from its written form. -/
theorem foldlM_escape (char : Char) (tokens : List Token) (chars : List Char) :
    (escape char).foldlM Tokenizer.step ⟨tokens, .text chars⟩ =
      some ⟨tokens, .text (char :: chars)⟩ := by
  rcases eq_or_ne char '"' with rfl | quote
  · rfl
  rcases eq_or_ne char '\\' with rfl | backslash
  · rfl
  rcases eq_or_ne char '\x08' with rfl | backspace
  · rfl
  rcases eq_or_ne char '\x0c' with rfl | feed
  · rfl
  rcases eq_or_ne char '\n' with rfl | newline
  · rfl
  rcases eq_or_ne char '\r' with rfl | carriage
  · rfl
  rcases eq_or_ne char '\t' with rfl | tab
  · rfl
  rw [escape, if_neg quote, if_neg backslash, if_neg backspace, if_neg feed, if_neg newline,
    if_neg carriage, if_neg tab]
  by_cases control : char.toNat < 0x20
  · rw [if_pos control]
    exact foldlM_control control tokens chars
  · have plain : Tokenizer.step ⟨tokens, .text chars⟩ char =
        some ⟨tokens, .text (char :: chars)⟩ := by
      unfold Tokenizer.step
      dsimp only
      rw [if_neg quote, if_neg backslash, if_neg control]
    rw [if_neg control, List.foldlM_cons, plain]
    rfl

theorem foldlM_escaped (text : List Char) (tokens : List Token) (chars : List Char) :
    (text.flatMap escape).foldlM Tokenizer.step ⟨tokens, .text chars⟩ =
      some ⟨tokens, .text (text.reverse ++ chars)⟩ := by
  induction text generalizing chars with
  | nil => rfl
  | cons char rest ih =>
      rw [List.flatMap_cons, List.foldlM_append, foldlM_escape, Option.bind_eq_bind,
        Option.bind_some, ih, List.reverse_cons, List.append_assoc]
      rfl

theorem readsAs_renderString (text : String) :
    ReadsAs (renderString text).toList [.scalar (.string text)] := by
  intro tokens
  refine ⟨⟨.scalar (.string text) :: tokens, .between⟩, ?_, rfl, fun _ _ _ => rfl⟩
  have opens : Tokenizer.step ⟨tokens, .between⟩ '"' = some ⟨tokens, .text []⟩ := rfl
  have closes : Tokenizer.step ⟨tokens, .text text.toList.reverse⟩ '"' =
      some ⟨.scalar (.string (String.ofList text.toList.reverse.reverse)) :: tokens, .between⟩ :=
    rfl
  rw [renderString, String.toList_ofList, List.cons_append, List.foldlM_cons, opens,
    Option.bind_eq_bind, Option.bind_some, List.foldlM_append, foldlM_escaped, Option.bind_eq_bind,
    Option.bind_some, List.append_nil, List.foldlM_cons, closes, List.reverse_reverse,
    String.ofList_toList]
  rfl

/-- The text of a value stands for its tokens. -/
theorem readsAs_render {room : ℕ} {value : Json} (readable : Readable room value) :
    ReadsAs value.render.toList value.tokens := by
  induction readable with
  | null => exact readsAs_word (fun _ => rfl) rfl
  | bool truth => cases truth <;> exact readsAs_word (fun _ => rfl) rfl
  | integer least most =>
      obtain ⟨numeral, read⟩ := ofNumeral?_toString least most
      exact readsAs_number numeral read
  | real number =>
      obtain ⟨numeral, read⟩ := ofNumeral?_renderReal number
      exact readsAs_number numeral read
  | string text => exact readsAs_renderString text
  | @array room items each ih =>
      have texts : List.Forall₂ ReadsAs (items.map fun item => item.render.toList)
          (items.map tokens) := by
        rw [List.forall₂_map_left_iff, List.forall₂_map_right_iff, List.forall₂_same]
        exact ih
      have text : (Json.array items).render.toList =
          '[' :: ([','].intercalate (items.map fun item => item.render.toList) ++ [']']) := by
        rw [render, renderItems_eq_map, String.toList_append, String.toList_append,
          String.toList_intercalate, List.map_map]
        rfl
      rw [text, tokens, itemTokens_eq_map]
      exact (readsAs_intercalate texts).enclosed ⟨by decide, by decide, fun _ => rfl⟩
        ⟨by decide, by decide, fun _ => rfl⟩
  | @object room entries distinct each ih =>
      have texts : List.Forall₂ ReadsAs (entries.map fun entry => (entryTextOf entry).toList)
          (entries.map entryTokensOf) := by
        rw [List.forall₂_map_left_iff, List.forall₂_map_right_iff, List.forall₂_same]
        intro entry member
        rw [entryTextOf, String.toList_append, String.toList_append, List.append_assoc]
        exact (readsAs_renderString entry.1).mark isMark_colon (ih entry member)
      have text : (Json.object entries).render.toList =
          '\x7b' :: ([','].intercalate (entries.map fun entry => (entryTextOf entry).toList) ++
            ['\x7d']) := by
        rw [render, renderEntries_eq_map, String.toList_append, String.toList_append,
          String.toList_intercalate, List.map_map]
        rfl
      rw [text, tokens, entryTokens_eq_map]
      exact (readsAs_intercalate texts).enclosed ⟨by decide, by decide, fun _ => rfl⟩
        ⟨by decide, by decide, fun _ => rfl⟩

/-- The text of a value is cut into its tokens. -/
theorem tokens?_render {room : ℕ} {value : Json} (readable : Readable room value) :
    tokens? value.render.toList = some value.tokens := by
  obtain ⟨tokenizer, read, completes⟩ := readsAs_render readable []
  rw [tokens?, read, Option.bind_some, completes.finished, List.append_nil, List.reverse_reverse]

/-- A token that is a value is one that reading gives, in no container. -/
def Token.IsReadable (token : Token) : Prop :=
  ∀ value, token = .scalar value → ∀ room, Readable room value

theorem Token.IsReadable.scalar {value : Json} (readable : ∀ room, Readable room value) :
    (Token.scalar value).IsReadable := by
  intro held same
  obtain rfl := Token.scalar.inj same
  exact readable

theorem readable_of_ofWord? {letters : List Char} {value : Json}
    (meant : ofWord? letters = some value) (room : ℕ) : Readable room value := by
  unfold ofWord? at meant
  split_ifs at meant <;> obtain rfl := Option.some.inj meant <;> constructor

theorem readable_of_ofNumeral? {chars : List Char} {value : Json}
    (read : ofNumeral? chars = some value) (room : ℕ) : Readable room value := by
  rcases of_ofNumeral? read with ⟨number, least, most, rfl⟩ | ⟨number, rfl⟩
  · exact .integer least most
  · exact .real number

namespace Tokenizer

variable {tokens : List Token} {tokenizer : Tokenizer}

/-- What follows from either branch follows from the choice. -/
theorem of_ite_eq_some {α : Type} {condition holds : Prop} [Decidable condition]
    {first second : Option α} {result : α} (one : first = some result → holds)
    (two : second = some result → holds) :
    (if condition then first else second) = some result → holds := by
  split_ifs
  · exact one
  · exact two

theorem isReadable_stepBetween {char : Char} (readable : ∀ token ∈ tokens, token.IsReadable)
    (step : stepBetween tokens char = some tokenizer) :
    ∀ token ∈ tokenizer.tokens, token.IsReadable := by
  have same {state : LexicalState} : some ⟨tokens, state⟩ = some tokenizer →
      ∀ token ∈ tokenizer.tokens, token.IsReadable := by
    rintro ⟨⟩
    exact readable
  have adds {mark : Token} {state : LexicalState} (isMark : mark.IsReadable) :
      some ⟨mark :: tokens, state⟩ = some tokenizer →
      ∀ token ∈ tokenizer.tokens, token.IsReadable := by
    rintro ⟨⟩
    exact List.forall_mem_cons.2 ⟨isMark, readable⟩
  revert step
  exact of_ite_eq_some same <| of_ite_eq_some (adds nofun) <| of_ite_eq_some (adds nofun) <|
    of_ite_eq_some (adds nofun) <| of_ite_eq_some (adds nofun) <| of_ite_eq_some (adds nofun) <|
    of_ite_eq_some (adds nofun) <| of_ite_eq_some same <| of_ite_eq_some same <|
    of_ite_eq_some same nofun

theorem isReadable_step {before : Tokenizer} {char : Char}
    (readable : ∀ token ∈ before.tokens, token.IsReadable)
    (step : before.step char = some tokenizer) :
    ∀ token ∈ tokenizer.tokens, token.IsReadable := by
  obtain ⟨tokens, state⟩ := before
  unfold Tokenizer.step at step
  cases state with
  | between => exact isReadable_stepBetween readable step
  | word letters =>
      dsimp only at step
      split_ifs at step
      · obtain rfl := Option.some.inj step
        exact readable
      · obtain ⟨value, meant, continued⟩ := Option.bind_eq_some_iff.1 step
        exact isReadable_stepBetween (List.forall_mem_cons.2
          ⟨.scalar (readable_of_ofWord? meant), readable⟩) continued
  | number chars =>
      dsimp only at step
      split_ifs at step
      · obtain rfl := Option.some.inj step
        exact readable
      · obtain ⟨value, read, continued⟩ := Option.bind_eq_some_iff.1 step
        exact isReadable_stepBetween (List.forall_mem_cons.2
          ⟨.scalar (readable_of_ofNumeral? read), readable⟩) continued
  | text chars =>
      dsimp only at step
      split_ifs at step <;> obtain rfl := Option.some.inj step
      · exact List.forall_mem_cons.2 ⟨.scalar fun _ => .string _, readable⟩
      · exact readable
      · exact readable
  | escaped chars =>
      dsimp only at step
      split_ifs at step
      · obtain rfl := Option.some.inj step
        exact readable
      · obtain ⟨_, -, rfl⟩ := Option.map_eq_some_iff.1 step
        exact readable
  | codeUnit chars high missing unit =>
      obtain ⟨digit, -, continued⟩ := Option.bind_eq_some_iff.1 step
      dsimp only at continued
      split_ifs at continued
      · obtain ⟨_, -, rfl⟩ := Option.map_eq_some_iff.1 continued
        exact readable
      · obtain rfl := Option.some.inj continued
        exact readable
  | lowEscape chars high =>
      dsimp only at step
      split_ifs at step
      obtain rfl := Option.some.inj step
      exact readable
  | lowMark chars high =>
      dsimp only at step
      split_ifs at step
      obtain rfl := Option.some.inj step
      exact readable

theorem isReadable_run (before : Tokenizer) {chars : List Char}
    (readable : ∀ token ∈ before.tokens, token.IsReadable)
    (run : chars.foldlM Tokenizer.step before = some tokenizer) :
    ∀ token ∈ tokenizer.tokens, token.IsReadable := by
  induction chars generalizing before with
  | nil =>
      obtain rfl := Option.some.inj run
      exact readable
  | cons char rest ih =>
      rw [List.foldlM_cons] at run
      obtain ⟨next, step, continued⟩ := Option.bind_eq_some_iff.1 run
      exact ih next (isReadable_step readable step) continued

theorem isReadable_finish? (readable : ∀ token ∈ tokenizer.tokens, token.IsReadable)
    (finished : tokenizer.finish? = some tokens) : ∀ token ∈ tokens, token.IsReadable := by
  have reversed {held : List Token} (all : ∀ token ∈ held, token.IsReadable) :
      ∀ token ∈ held.reverse, token.IsReadable :=
    fun token member => all token (List.mem_reverse.1 member)
  obtain ⟨held, state⟩ := tokenizer
  unfold finish? at finished
  split at finished
  · obtain rfl := Option.some.inj finished
    exact reversed readable
  · obtain ⟨value, meant, rfl⟩ := Option.map_eq_some_iff.1 finished
    exact reversed (List.forall_mem_cons.2
      ⟨.scalar (readable_of_ofWord? meant), readable⟩)
  · obtain ⟨value, read, rfl⟩ := Option.map_eq_some_iff.1 finished
    exact reversed (List.forall_mem_cons.2
      ⟨.scalar (readable_of_ofNumeral? read), readable⟩)
  · exact nomatch finished

end Tokenizer

/-- The values among the tokens of a text are values that reading gives. -/
theorem isReadable_of_tokens? {chars : List Char} {tokens : List Token}
    (cut : tokens? chars = some tokens) : ∀ token ∈ tokens, token.IsReadable := by
  obtain ⟨tokenizer, run, finished⟩ := Option.bind_eq_some_iff.1 cut
  exact Tokenizer.isReadable_finish? (Tokenizer.isReadable_run ⟨[], .between⟩ nofun run)
    finished

end Json

end EntityQuery

import EntityQuery.Json.Value
import EntityQuery.Number.Numeral
import EntityQuery.Text.Hexadecimal

/-!
# Reading JSON text

Two machines read a text from left to right.  The first cuts it into tokens, one character at a
time; the second assembles tokens into a value with a stack of the containers that still wait for
one.  Neither backtracks, so each is a fold over its input.
-/

namespace EntityQuery.Json

/-- The words and marks of JSON text. -/
inductive Token
  | beginArray
  | endArray
  | beginObject
  | endObject
  | comma
  | colon
  | scalar (value : Json)

/-- Where the tokenizer stands between two characters; collected characters are in reverse. -/
inductive LexicalState
  | between
  | word (letters : List Char)
  | number (chars : List Char)
  | text (chars : List Char)
  | escaped (chars : List Char)
  /-- Inside `\uXXXX`: the digits still missing and the value so far, after a high surrogate. -/
  | codeUnit (chars : List Char) (high : Option Nat) (missing : Nat) (unit : Nat)
  /-- After a high surrogate, before the backslash of the low one. -/
  | lowEscape (chars : List Char) (high : Nat)
  /-- After a high surrogate and a backslash. -/
  | lowMark (chars : List Char) (high : Nat)

/-- The tokens so far, in reverse, and where the tokenizer stands. -/
structure Tokenizer where
  tokens : List Token
  state : LexicalState

/-- The value of a number token: whole numbers of at most 64 bits stay whole, `-0` and all others
become the nearest floating-point number, which must be finite. -/
def ofNumeral? (chars : List Char) : Option Json :=
  let (negative, unsigned) := match chars with
    | '-' :: rest => (true, rest)
    | chars => (false, chars)
  (Numeral.parts? unsigned).bind fun parts =>
    if !parts.isStrict then none
    else
      let magnitude := Numeral.value parts.whole
      let isWhole := parts.fraction.isNone && parts.exponent.isNone
      if isWhole && !negative && magnitude < Nat.pow 2 64 then some (.integer magnitude)
      else if isWhole && negative && magnitude != 0 && magnitude ≤ Nat.pow 2 63 then
        some (.integer (-(magnitude : Int)))
      else (parts.decimal.toBinary64 negative).finite?.map .real

def ofWord? (letters : List Char) : Option Json :=
  if letters = ['n', 'u', 'l', 'l'] then some .null
  else if letters = ['t', 'r', 'u', 'e'] then some (.bool true)
  else if letters = ['f', 'a', 'l', 's', 'e'] then some (.bool false)
  else none

/-- Characters that can stand in a number. -/
def isNumberChar (char : Char) : Bool :=
  char.isDigit || char == '-' || char == '+' || char == '.' || char == 'e' || char == 'E'

/-- The character that a letter after a backslash stands for. -/
def unescape? (letter : Char) : Option Char :=
  if letter = '"' then some '"'
  else if letter = '\\' then some '\\'
  else if letter = '/' then some '/'
  else if letter = 'b' then some '\x08'
  else if letter = 'f' then some '\x0c'
  else if letter = 'n' then some '\n'
  else if letter = 'r' then some '\r'
  else if letter = 't' then some '\t'
  else none

/-- The state after a complete `\uXXXX`: a high surrogate must be followed by a low one. -/
def afterCodeUnit (chars : List Char) (high : Option Nat) (unit : Nat) : Option LexicalState :=
  let isLow := 0xDC00 ≤ unit ∧ unit < 0xE000
  match high with
  | some high =>
      if isLow then
        some (.text
          (Char.ofNat (0x10000 + (high - 0xD800) * 0x400 + (unit - 0xDC00)) :: chars))
      else none
  | none =>
      if 0xD800 ≤ unit ∧ unit < 0xDC00 then some (.lowEscape chars unit)
      else if isLow then none
      else some (.text (Char.ofNat unit :: chars))

namespace Tokenizer

/-- Read a character that starts a token or separates tokens. -/
def stepBetween (tokens : List Token) (char : Char) : Option Tokenizer :=
  if char = ' ' ∨ char = '\t' ∨ char = '\n' ∨ char = '\r' then some ⟨tokens, .between⟩
  else if char = '[' then some ⟨.beginArray :: tokens, .between⟩
  else if char = ']' then some ⟨.endArray :: tokens, .between⟩
  else if char = '\x7b' then some ⟨.beginObject :: tokens, .between⟩
  else if char = '\x7d' then some ⟨.endObject :: tokens, .between⟩
  else if char = ',' then some ⟨.comma :: tokens, .between⟩
  else if char = ':' then some ⟨.colon :: tokens, .between⟩
  else if char = '"' then some ⟨tokens, .text []⟩
  else if char = '-' ∨ char.isDigit then some ⟨tokens, .number [char]⟩
  else if char.isLower then some ⟨tokens, .word [char]⟩
  else none

def step (tokenizer : Tokenizer) (char : Char) : Option Tokenizer :=
  let tokens := tokenizer.tokens
  match tokenizer.state with
  | .between => stepBetween tokens char
  | .word letters =>
      if char.isLower then some ⟨tokens, .word (char :: letters)⟩
      else (ofWord? letters.reverse).bind fun value => stepBetween (.scalar value :: tokens) char
  | .number chars =>
      if isNumberChar char then some ⟨tokens, .number (char :: chars)⟩
      else (ofNumeral? chars.reverse).bind fun value => stepBetween (.scalar value :: tokens) char
  | .text chars =>
      if char = '"' then
        some ⟨.scalar (.string (String.ofList chars.reverse)) :: tokens, .between⟩
      else if char = '\\' then some ⟨tokens, .escaped chars⟩
      else if char.toNat < 0x20 then none
      else some ⟨tokens, .text (char :: chars)⟩
  | .escaped chars =>
      if char = 'u' then some ⟨tokens, .codeUnit chars none 4 0⟩
      else (unescape? char).map fun meant => ⟨tokens, .text (meant :: chars)⟩
  | .codeUnit chars high missing unit =>
      (Hexadecimal.value? char).bind fun digit =>
        let unit := unit * 16 + digit
        if missing ≤ 1 then (afterCodeUnit chars high unit).map fun state => ⟨tokens, state⟩
        else some ⟨tokens, .codeUnit chars high (missing - 1) unit⟩
  | .lowEscape chars high =>
      if char = '\\' then some ⟨tokens, .lowMark chars high⟩ else none
  | .lowMark chars high =>
      if char = 'u' then some ⟨tokens, .codeUnit chars (some high) 4 0⟩ else none

/-- The tokens, once the text has ended. -/
def finish? (tokenizer : Tokenizer) : Option (List Token) :=
  match tokenizer.state with
  | .between => some tokenizer.tokens.reverse
  | .word letters =>
      (ofWord? letters.reverse).map fun value => (.scalar value :: tokenizer.tokens).reverse
  | .number chars =>
      (ofNumeral? chars.reverse).map fun value => (.scalar value :: tokenizer.tokens).reverse
  | _ => none

end Tokenizer

def tokens? (chars : List Char) : Option (List Token) :=
  (chars.foldlM Tokenizer.step ⟨[], .between⟩).bind Tokenizer.finish?

/-- A container that waits for a value: the items before it in reverse, or the entries before it
and its key. -/
inductive Frame
  | array (items : List Json)
  | object (entries : Record) (key : String)

/-- What may come next. -/
inductive Phase
  | value
  | firstItem
  | afterItem (items : List Json)
  | firstKey
  | nextKey (entries : Record)
  | afterKey (entries : Record) (key : String)
  | afterEntry (entries : Record)
  | finished (value : Json)

/-- The waiting containers, innermost first, and what may come next. -/
structure Assembler where
  frames : List Frame
  phase : Phase

namespace Assembler

/-- Containers may be nested less deeply than this. -/
def depthLimit : Nat := 128

/-- A value has ended: hand it to the container that waits for it. -/
def complete (frames : List Frame) (value : Json) : Assembler :=
  match frames with
  | [] => ⟨[], .finished value⟩
  | .array items :: outer => ⟨outer, .afterItem (value :: items)⟩
  | .object entries key :: outer => ⟨outer, .afterEntry (Record.insert entries key value)⟩

/-- Read the first token of a value. -/
def begin? (frames : List Frame) : Token → Option Assembler
  | .scalar value => some (complete frames value)
  | .beginArray => if frames.length + 1 < depthLimit then some ⟨frames, .firstItem⟩ else none
  | .beginObject => if frames.length + 1 < depthLimit then some ⟨frames, .firstKey⟩ else none
  | _ => none

def step (assembler : Assembler) (token : Token) : Option Assembler :=
  let frames := assembler.frames
  match assembler.phase, token with
  | .value, token => begin? frames token
  | .firstItem, .endArray => some (complete frames (.array []))
  | .firstItem, token => begin? (.array [] :: frames) token
  | .afterItem items, .comma => some ⟨.array items :: frames, .value⟩
  | .afterItem items, .endArray => some (complete frames (.array items.reverse))
  | .firstKey, .endObject => some (complete frames (.object []))
  | .firstKey, .scalar (.string key) => some ⟨frames, .afterKey [] key⟩
  | .nextKey entries, .scalar (.string key) => some ⟨frames, .afterKey entries key⟩
  | .afterKey entries key, .colon => some ⟨.object entries key :: frames, .value⟩
  | .afterEntry entries, .comma => some ⟨frames, .nextKey entries⟩
  | .afterEntry entries, .endObject => some (complete frames (.object entries))
  | _, _ => none

end Assembler

/-- The value of a list of tokens. -/
def ofTokens? (tokens : List Token) : Option Json :=
  (tokens.foldlM Assembler.step ⟨[], .value⟩).bind fun assembler =>
    match assembler.phase with
    | .finished value => some value
    | _ => none

/-- The value that a JSON text denotes. -/
def read? (text : String) : Option Json := (tokens? text.toList).bind ofTokens?

end EntityQuery.Json

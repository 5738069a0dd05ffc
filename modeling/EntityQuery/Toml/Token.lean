import EntityQuery.Text.Hexadecimal

/-!
# TOML tokens

A document is first taken apart into characters and line breaks, and these are cut into tokens by
a machine that reads one at a time.  Words are kept whole: whether one is a key or a value is not
known yet.  Comments are dropped.
-/

namespace EntityQuery.Toml

/-- A character of a line, or a line break as it is written. -/
inductive Symbol
  | char (char : Char)
  | lineBreak (written : List Char)

/-- The symbols of a document, in which no control characters stand but tabs and line breaks. -/
def symbols? : List Char → Option (List Symbol)
  | [] => some []
  | '\r' :: '\n' :: rest => (symbols? rest).map (.lineBreak ['\r', '\n'] :: ·)
  | '\n' :: rest => (symbols? rest).map (.lineBreak ['\n'] :: ·)
  | char :: rest =>
      if (char.toNat < 0x20 ∧ char ≠ '\t') ∨ char.toNat = 0x7F then none
      else (symbols? rest).map (.char char :: ·)

/-- The words, marks and gaps of a document. -/
inductive Token
  | gap (chars : List Char)
  | lineBreak
  | word (chars : List Char)
  | text (content : String) (isBlock : Bool)
  | mark (mark : Char)

/-- Where the tokenizer stands between two symbols; collected characters are in reverse. -/
inductive LexicalState
  | between
  | gap (chars : List Char)
  | word (chars : List Char)
  | comment
  /-- After one quote, or after two. -/
  | quotes (quote : Char) (two : Bool)
  /-- After three quotes. -/
  | blockStart (quote : Char)
  /-- In quoted text, after some quotes that may be the end of a block. -/
  | text (quote : Char) (isBlock : Bool) (chars : List Char) (closing : Nat)
  /-- After a backslash. -/
  | escape (isBlock : Bool) (chars : List Char)
  /-- In a number of a character, with the digits still missing and the value so far. -/
  | code (isBlock : Bool) (chars : List Char) (missing value : Nat)
  /-- Between a backslash at the end of a line and the next character that is not blank. -/
  | fold (chars : List Char) (broken : Bool)

def isMark (char : Char) : Bool :=
  char == '.' || char == '=' || char == ',' || char == '[' || char == ']' || char == '\x7b' ||
    char == '\x7d'

def isGap (char : Char) : Bool := char == ' ' || char == '\t'

def isQuote (char : Char) : Bool := char == '"' || char == '\''

/-- Characters that continue a word.  A quote begins quoted text only where no word has begun. -/
def isWordChar (char : Char) : Bool := !(isMark char || isGap char || char == '#')

/-- The character that a letter after a backslash stands for. -/
def unescape? (letter : Char) : Option Char :=
  if letter = '"' then some '"'
  else if letter = '\\' then some '\\'
  else if letter = 'b' then some '\x08'
  else if letter = 'e' then some '\x1b'
  else if letter = 'f' then some '\x0c'
  else if letter = 'n' then some '\n'
  else if letter = 'r' then some '\r'
  else if letter = 't' then some '\t'
  else none

/-- The number of digits in the number of a character, by the letter before it. -/
def codeLength? (letter : Char) : Option Nat :=
  if letter = 'x' then some 2
  else if letter = 'u' then some 4
  else if letter = 'U' then some 8
  else none

def charOfCode? (code : Nat) : Option Char :=
  if code.isValidChar then some (Char.ofNat code) else none

/-- The tokens so far, in reverse, and where the tokenizer stands. -/
structure Tokenizer where
  tokens : List Token
  state : LexicalState

namespace Tokenizer

/-- Read a symbol that begins a token. -/
def stepBetween (tokens : List Token) : Symbol → Tokenizer
  | .lineBreak _ => ⟨.lineBreak :: tokens, .between⟩
  | .char char =>
      if isMark char then ⟨.mark char :: tokens, .between⟩
      else if isGap char then ⟨tokens, .gap [char]⟩
      else if isQuote char then ⟨tokens, .quotes char false⟩
      else if char = '#' then ⟨tokens, .comment⟩
      else ⟨tokens, .word [char]⟩

/-- The token of quoted text, whose characters are in reverse. -/
def textToken (isBlock : Bool) (chars : List Char) : Token :=
  .text (String.ofList chars.reverse) isBlock

/-- Read a symbol of quoted text in which no quotes are pending. -/
def stepText (tokens : List Token) (quote : Char) (isBlock : Bool) (chars : List Char) :
    Symbol → Option Tokenizer
  | .lineBreak written =>
      if isBlock then some ⟨tokens, .text quote isBlock (written.reverse ++ chars) 0⟩ else none
  | .char char =>
      if char = quote then
        if isBlock then some ⟨tokens, .text quote isBlock chars 1⟩
        else some ⟨textToken isBlock chars :: tokens, .between⟩
      else if char = '\\' ∧ quote = '"' then some ⟨tokens, .escape isBlock chars⟩
      else some ⟨tokens, .text quote isBlock (char :: chars) 0⟩

/-- Read a symbol after some quotes in a block.  The block ends with three quotes, before which
up to two more may stand that belong to the text. -/
def stepQuotes (tokens : List Token) (quote : Char) (chars : List Char) (closing : Nat)
    (symbol : Symbol) : Option Tokenizer :=
  let isSame := match symbol with
    | .char char => char == quote
    | .lineBreak _ => false
  let ended := textToken true (List.replicate (closing - 3) quote ++ chars) :: tokens
  if isSame && closing < 5 then some ⟨tokens, .text quote true chars (closing + 1)⟩
  else if 3 ≤ closing then some (stepBetween ended symbol)
  else stepText tokens quote true (List.replicate closing quote ++ chars) symbol

def stepEscape (tokens : List Token) (isBlock : Bool) (chars : List Char) :
    Symbol → Option Tokenizer
  | .lineBreak _ => if isBlock then some ⟨tokens, .fold chars true⟩ else none
  | .char char =>
      if isGap char && isBlock then some ⟨tokens, .fold chars false⟩
      else
        match unescape? char with
        | some meant => some ⟨tokens, .text '"' isBlock (meant :: chars) 0⟩
        | none =>
            (codeLength? char).map fun missing => ⟨tokens, .code isBlock chars missing 0⟩

/-- Read a digit in the number of a character. -/
def stepCode (tokens : List Token) (isBlock : Bool) (chars : List Char) (missing value : Nat) :
    Symbol → Option Tokenizer
  | .lineBreak _ => none
  | .char char =>
      (Hexadecimal.value? char).bind fun digit =>
        let value := value * 16 + digit
        if missing ≤ 1 then
          (charOfCode? value).map fun meant => ⟨tokens, .text '"' isBlock (meant :: chars) 0⟩
        else some ⟨tokens, .code isBlock chars (missing - 1) value⟩

/-- Read a symbol after a backslash at the end of a line. -/
def stepFold (tokens : List Token) (chars : List Char) (broken : Bool) (symbol : Symbol) :
    Option Tokenizer :=
  match symbol with
  | .lineBreak _ => some ⟨tokens, .fold chars true⟩
  | .char char =>
      if isGap char then some ⟨tokens, .fold chars broken⟩
      else if broken then stepText tokens '"' true chars symbol
      else none

def step (tokenizer : Tokenizer) (symbol : Symbol) : Option Tokenizer :=
  let tokens := tokenizer.tokens
  match tokenizer.state, symbol with
  | .between, symbol => some (stepBetween tokens symbol)
  | .gap chars, .char char =>
      if isGap char then some ⟨tokens, .gap (char :: chars)⟩
      else some (stepBetween (.gap chars.reverse :: tokens) symbol)
  | .gap chars, symbol => some (stepBetween (.gap chars.reverse :: tokens) symbol)
  | .word chars, .char char =>
      if isWordChar char then some ⟨tokens, .word (char :: chars)⟩
      else some (stepBetween (.word chars.reverse :: tokens) symbol)
  | .word chars, symbol => some (stepBetween (.word chars.reverse :: tokens) symbol)
  | .comment, .char _ => some tokenizer
  | .comment, symbol => some (stepBetween tokens symbol)
  | .quotes quote two, .char char =>
      if char = quote then some ⟨tokens, if two then .blockStart quote else .quotes quote true⟩
      else if two then some (stepBetween (textToken false [] :: tokens) symbol)
      else stepText tokens quote false [] symbol
  | .quotes _ two, symbol =>
      if two then some (stepBetween (textToken false [] :: tokens) symbol) else none
  | .blockStart quote, .lineBreak _ => some ⟨tokens, .text quote true [] 0⟩
  | .blockStart quote, symbol => stepText tokens quote true [] symbol
  | .text quote isBlock chars closing, symbol =>
      if closing = 0 then stepText tokens quote isBlock chars symbol
      else stepQuotes tokens quote chars closing symbol
  | .escape isBlock chars, symbol => stepEscape tokens isBlock chars symbol
  | .code isBlock chars missing value, symbol =>
      stepCode tokens isBlock chars missing value symbol
  | .fold chars broken, symbol => stepFold tokens chars broken symbol

end Tokenizer

/-- The characters of a document after its byte order mark, if it has one. -/
def withoutMark : List Char → List Char
  | '\uFEFF' :: rest => rest
  | chars => chars

/-- The tokens of a document; its last line ends with a line break even if none is written. -/
def tokens? (text : String) : Option (List Token) :=
  (symbols? (withoutMark text.toList)).bind fun symbols =>
    let ended := symbols ++ [.lineBreak []]
    (ended.foldlM Tokenizer.step ⟨[], .between⟩).bind fun tokenizer =>
      match tokenizer.state with
      | .between => some tokenizer.tokens.reverse
      | _ => none

end EntityQuery.Toml

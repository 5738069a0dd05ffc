import EntityQuery.Toml.Scalar
import EntityQuery.Toml.Token

/-!
# TOML documents

A second machine reads tokens and adds what each line says to the root table: a header names the
table that the lines after it belong to, every other line gives a value to a key.  Values that are
not complete yet wait on a stack.
-/

namespace EntityQuery.Toml

/-- What a key is read for. -/
inductive KeyRole
  /-- For a line that gives it a value. -/
  | line
  /-- For an entry of a table in braces, after other entries. -/
  | entry (table : Table)
  /-- For the header of a table. -/
  | header
  /-- For the header of an element. -/
  | elementHeader

/-- What waits for a value; items are in reverse. -/
inductive Frame
  | line (path : List String)
  | item (items : List Value)
  | entry (table : Table) (path : List String)

/-- What may come next. -/
inductive Phase
  | lineStart
  | lineEnd
  /-- After the first bracket of a line. -/
  | bracket
  /-- Before a part of a key; the parts before it are in reverse. -/
  | keyPart (role : KeyRole) (parts : List String)
  /-- After a part of a key. -/
  | keyEnd (role : KeyRole) (parts : List String)
  /-- In a table in braces, on a line below a key. -/
  | belowKey (table : Table) (path : List String)
  /-- After the first of two closing brackets. -/
  | closing (path : List String)
  | value
  /-- In an unquoted value, and in the gap after it. -/
  | unquoted (chars gap : List Char)
  | item (items : List Value)
  | afterItem (items : List Value)
  | entry (table : Table)
  | afterEntry (table : Table)

/-- What has been read of a document, and what may come next. -/
structure Assembler where
  root : Table
  /-- The path of the last header. -/
  header : List String
  frames : List Frame
  phase : Phase

/-- Whether a word can be a part of a key. -/
def isBareKey (chars : List Char) : Bool :=
  chars.all fun char => char.isAlphanum || char == '_' || char == '-'

/-- The part of a key that a token is. -/
def Token.keyPart? : Token → Option String
  | .word chars => if isBareKey chars then some (String.ofList chars) else none
  | .text content false => some content
  | _ => none

namespace Assembler

/-- How deep arrays and tables in braces may be nested, and how many parts a key may have. -/
def depthLimit : Nat := 80

def go (assembler : Assembler) (phase : Phase) : Assembler := { assembler with phase := phase }

/-- Open an array or a table in braces. -/
def opened? (assembler : Assembler) (phase : Phase) : Option Assembler :=
  if assembler.frames.length ≤ depthLimit then some (assembler.go phase) else none

/-- A value has ended: hand it to whatever waits for it. -/
def complete? (assembler : Assembler) (value : Value) : Option Assembler :=
  match assembler.frames with
  | [] => none
  | .line path :: frames =>
      (assembler.root.within (Table.assign value path) assembler.header).map fun root =>
        { assembler with root := root, frames := frames, phase := .lineEnd }
  | .item items :: frames =>
      some { assembler with frames := frames, phase := .afterItem (value :: items) }
  | .entry table path :: frames =>
      (table.assign value path).map fun table =>
        { assembler with frames := frames, phase := .afterEntry table }

/-- Read a header, whose last part names the table. -/
def declared? (assembler : Assembler) (add : String → Table → Option Table)
    (path : List String) : Option Assembler :=
  path.getLast?.bind fun key =>
    (assembler.root.within (add key) path.dropLast).map fun root =>
      { assembler with root := root, header := path, phase := .lineEnd }

def await (assembler : Assembler) (frame : Frame) (phase : Phase) : Assembler :=
  { assembler with frames := frame :: assembler.frames, phase := phase }

/-- Read the first token of a value. -/
def begin? (assembler : Assembler) : Token → Option Assembler
  | .text content _ => assembler.complete? (.text content)
  | .word chars => some (assembler.go (.unquoted chars []))
  | .mark '[' => assembler.opened? (.item [])
  | .mark '\x7b' => assembler.opened? (.entry [])
  | _ => none

def readKeyPart? (assembler : Assembler) (role : KeyRole) (parts : List String) :
    Token → Option Assembler
  | .gap _ => some (assembler.go (.keyPart role parts))
  | token =>
      if parts.length < depthLimit then
        token.keyPart?.map fun part => assembler.go (.keyEnd role (part :: parts))
      else none

/-- Read what follows a part of a key. -/
def readKeyEnd? (assembler : Assembler) (role : KeyRole) (parts : List String)
    (token : Token) : Option Assembler :=
  let path := parts.reverse
  match token, role with
  | .gap _, _ => some assembler
  | .mark '.', _ => some (assembler.go (.keyPart role parts))
  | .mark '=', .line => some (assembler.await (.line path) .value)
  | .mark '=', .entry table => some (assembler.await (.entry table path) .value)
  | .lineBreak, .entry table => some (assembler.go (.belowKey table path))
  | .mark ']', .header => assembler.declared? Table.declare path
  | .mark ']', .elementHeader => some (assembler.go (.closing path))
  | _, _ => none

/-- Read what follows a key in a table in braces, on a line below it. -/
def readBelowKey? (assembler : Assembler) (table : Table) (path : List String) :
    Token → Option Assembler
  | .gap _ | .lineBreak => some assembler
  | .mark '=' => some (assembler.await (.entry table path) .value)
  | _ => none

/-- Read what stands before a value or begins it.  In a table in braces it may stand on a line
below its key. -/
def readValue? (assembler : Assembler) (token : Token) : Option Assembler :=
  match token, assembler.frames with
  | .gap _, _ => some assembler
  | .lineBreak, .entry _ _ :: _ => some assembler
  | token, _ => assembler.begin? token

/-- Read what follows an item of an array. -/
def readAfterItem? (assembler : Assembler) (items : List Value) : Token → Option Assembler
  | .gap _ | .lineBreak => some (assembler.go (.afterItem items))
  | .mark ',' => some (assembler.go (.item items))
  | .mark ']' => assembler.complete? (.array items.reverse)
  | _ => none

/-- Read the beginning of an item, or the end of the array. -/
def readItem? (assembler : Assembler) (items : List Value) : Token → Option Assembler
  | .gap _ | .lineBreak => some assembler
  | .mark ']' => assembler.complete? (.array items.reverse)
  | token => (assembler.await (.item items) .value).begin? token

/-- Read what follows an entry of a table in braces. -/
def readAfterEntry? (assembler : Assembler) (table : Table) : Token → Option Assembler
  | .gap _ | .lineBreak => some (assembler.go (.afterEntry table))
  | .mark ',' => some (assembler.go (.entry table))
  | .mark '\x7d' => assembler.complete? (.table .inline table)
  | _ => none

/-- Read the beginning of an entry, or the end of the table. -/
def readEntry? (assembler : Assembler) (table : Table) : Token → Option Assembler
  | .gap _ | .lineBreak => some assembler
  | .mark '\x7d' => assembler.complete? (.table .inline table)
  | token => assembler.readKeyPart? (.entry table) [] token

def readLineEnd? (assembler : Assembler) : Token → Option Assembler
  | .gap _ => some (assembler.go .lineEnd)
  | .lineBreak => some (assembler.go .lineStart)
  | _ => none

def readAfter? (assembler : Assembler) (token : Token) : Option Assembler :=
  match assembler.phase with
  | .afterItem items => assembler.readAfterItem? items token
  | .afterEntry table => assembler.readAfterEntry? table token
  | _ => assembler.readLineEnd? token

/-- Read more of an unquoted value.  A gap only belongs to it if more of it follows. -/
def readUnquoted? (assembler : Assembler) (chars gap : List Char) : Token → Option Assembler
  | .word more => some (assembler.go (.unquoted (chars ++ gap ++ more) []))
  | .mark '.' => some (assembler.go (.unquoted (chars ++ gap ++ ['.']) []))
  | .gap blanks => some (assembler.go (.unquoted chars blanks))
  | token =>
      ((ofUnquoted? chars).bind assembler.complete?).bind fun assembler =>
        assembler.readAfter? token

def step (assembler : Assembler) (token : Token) : Option Assembler :=
  match assembler.phase, token with
  | .lineStart, .gap _ => some assembler
  | .lineStart, .lineBreak => some assembler
  | .lineStart, .mark '[' => some (assembler.go .bracket)
  | .lineStart, token => assembler.readKeyPart? .line [] token
  | .lineEnd, token => assembler.readLineEnd? token
  | .bracket, .mark '[' => some (assembler.go (.keyPart .elementHeader []))
  | .bracket, token => assembler.readKeyPart? .header [] token
  | .keyPart role parts, token => assembler.readKeyPart? role parts token
  | .keyEnd role parts, token => assembler.readKeyEnd? role parts token
  | .belowKey table path, token => assembler.readBelowKey? table path token
  | .closing path, .mark ']' => assembler.declared? Table.addElement path
  | .closing _, _ => none
  | .value, token => assembler.readValue? token
  | .unquoted chars gap, token => assembler.readUnquoted? chars gap token
  | .item items, token => assembler.readItem? items token
  | .afterItem items, token => assembler.readAfterItem? items token
  | .entry table, token => assembler.readEntry? table token
  | .afterEntry table, token => assembler.readAfterEntry? table token

end Assembler

/-- The root table of a list of tokens. -/
def ofTokens? (tokens : List Token) : Option Table :=
  (tokens.foldlM Assembler.step ⟨[], [], [], .lineStart⟩).bind fun assembler =>
    match assembler.phase with
    | .lineStart => some assembler.root
    | _ => none

def read? (text : String) : Option Table := (tokens? text).bind ofTokens?

end EntityQuery.Toml

/-!
# Placeholders in SQL text

A placeholder is a question mark outside single-quoted literals and double-quoted identifiers.
The scanner only remembers the quote it is in: a doubled quote closes the quoted run and reopens
it at once, which is how SQL writes a quote inside one.
-/

namespace EntityQuery.Placeholder

/-- Whether the scanner is in quotes, and in which. -/
inductive QuoteState
  | outside
  | inside (quote : Char)
  deriving DecidableEq

def QuoteState.next (state : QuoteState) (char : Char) : QuoteState :=
  match state with
  | .outside => if char = '\'' ∨ char = '"' then .inside char else .outside
  | .inside quote => if char = quote then .outside else .inside quote

def QuoteState.after (state : QuoteState) (chars : List Char) : QuoteState :=
  chars.foldl QuoteState.next state

/-- Whether a character read in a state is a placeholder. -/
def isPlaceholder (state : QuoteState) (char : Char) : Bool :=
  state == .outside && char == '?'

/-- The byte offsets of the placeholders of a text that starts at a byte offset. -/
def offsetsFrom (state : QuoteState) (offset : Nat) : List Char → List Nat
  | [] => []
  | char :: rest =>
      let later := offsetsFrom (state.next char) (offset + char.utf8Size) rest
      if isPlaceholder state char then offset :: later else later

/-- The byte offsets of the placeholders, in increasing order. -/
def offsets (sql : String) : List Nat := offsetsFrom .outside 0 sql.toList

def count (sql : String) : Nat := (offsets sql).length

/-- The text with its placeholders replaced by `$next`, `$next + 1`, …. -/
def numberedFrom (state : QuoteState) (next : Nat) : List Char → List Char
  | [] => []
  | char :: rest =>
      if isPlaceholder state char then
        '$' :: Nat.toDigits 10 next ++ numberedFrom (state.next char) (next + 1) rest
      else char :: numberedFrom (state.next char) next rest

/-- The text with its placeholders replaced by `$1`, `$2`, …. -/
def numbered (sql : String) : String := String.ofList (numberedFrom .outside 1 sql.toList)

end EntityQuery.Placeholder

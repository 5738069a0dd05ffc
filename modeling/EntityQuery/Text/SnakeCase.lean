import EntityQuery.Text.Alphanumeric
import EntityQuery.Text.Case

/-!
# Names in snake case

A name is cut into pieces at characters that are neither letters nor numbers, and each piece into
words where its case changes: before an upper-case letter that follows a lower-case one, and
before the last upper-case letter of a run that a lower-case one follows.  The words are written
in lower case with underscores between them.
-/

namespace EntityQuery.Text

/-- The case of the letters read last. -/
inductive LetterMode
  | none
  | lower
  | upper
  deriving DecidableEq

/-- The mode after a character; characters without case keep it. -/
def LetterMode.next (mode : LetterMode) (char : Char) : LetterMode :=
  if isLowercase char then .lower else if isUppercase char then .upper else mode

/-- The words of a piece of letters and numbers, given the letters of the word at hand in
reverse. -/
def splitWords (mode : LetterMode) (word : List Char) : List Char → List (List Char)
  | [] => [word.reverse]
  | [char] => [(char :: word).reverse]
  | char :: following :: rest =>
      let reached := mode.next char
      if reached = .lower ∧ isUppercase following then
        (char :: word).reverse :: splitWords .none [] (following :: rest)
      else if mode = .upper ∧ isUppercase char ∧ isLowercase following then
        word.reverse :: splitWords .none [char] (following :: rest)
      else splitWords reached (char :: word) (following :: rest)

/-- The pieces of a name between characters that are neither letters nor numbers. -/
def pieces (chars : List Char) : List (List Char) :=
  chars.splitOnP fun char => !isAlphanumeric char

/-- A word in lower case; a capital sigma at its end takes its final form. -/
def lowerWord : List Char → List Char
  | [] => []
  | ['Σ'] => ['ς']
  | char :: rest => lowered char ++ lowerWord rest

def snakeCase (name : String) : String :=
  let words := (pieces name.toList).flatMap (splitWords .none [])
  String.ofList
    (['_'].intercalate ((words.filter fun word => !word.isEmpty).map lowerWord))

end EntityQuery.Text

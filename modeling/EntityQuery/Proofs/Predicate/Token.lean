import EntityQuery.Ident
import EntityQuery.Placeholder

/-!
# Tokens of SQL text

A text is read as words, commas and parts in parentheses, whose text is kept beside the tokens
inside.  Blanks, commas and parentheses between quotes belong to a word.  A text put together from
pieces is read piece by piece: a piece either extends the word that is being read, or spells tokens
of its own, or at least closes every quote and parenthesis that it opens.
-/

namespace EntityQuery.Predicate

open Placeholder

/-- A token of an SQL text. -/
inductive Token
  /-- Characters up to a blank, a comma or a parenthesis outside quotes. -/
  | word (text : String)
  | comma
  /-- A part in parentheses: as it is written, and the tokens inside. -/
  | enclosed (text : String) (tokens : List Token)

/-- What has been read of a text, or of a part in parentheses. -/
structure Frame where
  text : List Char
  tokens : List Token
  /-- The word that is being read. -/
  word : List Char

namespace Frame

def start : Frame := ⟨[], [], []⟩

/-- The tokens that have been read if the word ends here. -/
def flushed (frame : Frame) : List Token :=
  if frame.word = [] then frame.tokens else frame.tokens ++ [.word (.ofList frame.word)]

/-- Further characters of a word. -/
def grow (frame : Frame) (chars : List Char) : Frame :=
  ⟨frame.text ++ chars, frame.tokens, frame.word ++ chars⟩

/-- A text between words, with the tokens that it stands for. -/
def separate (frame : Frame) (chars : List Char) (tokens : List Token) : Frame :=
  ⟨frame.text ++ chars, frame.flushed ++ tokens, []⟩

/-- A part in parentheses that has been read to its end. -/
def enclose (frame inner : Frame) : Frame :=
  let written := '(' :: inner.text ++ [')']
  frame.separate written [.enclosed (.ofList written) inner.flushed]

/-- Whether a character makes the word the start of a comment. -/
def opensComment (frame : Frame) (char : Char) : Bool :=
  char == '-' && frame.word.getLast? == some '-' || char == '*' && frame.word.getLast? == some '/'

end Frame

/-- The state of reading: the innermost part that is open and those around it. -/
structure Lexer where
  quote : QuoteState
  frame : Frame
  outer : List Frame

namespace Lexer

def start : Lexer := ⟨.outside, .start, []⟩

/-- Read a character; comments are not read. -/
def step (lexer : Lexer) (char : Char) : Option Lexer :=
  let grown : Lexer := ⟨lexer.quote.next char, lexer.frame.grow [char], lexer.outer⟩
  match lexer.quote with
  | .inside _ => some grown
  | .outside =>
      if char = '(' then some ⟨.outside, .start, lexer.frame :: lexer.outer⟩
      else if char = ')' then
        match lexer.outer with
        | [] => none
        | frame :: rest => some ⟨.outside, frame.enclose lexer.frame, rest⟩
      else if char = ',' then some { lexer with frame := lexer.frame.separate [char] [.comma] }
      else if char.isWhitespace then some { lexer with frame := lexer.frame.separate [char] [] }
      else if lexer.frame.opensComment char then none
      else some grown

def run (lexer : Lexer) (chars : List Char) : Option Lexer := chars.foldlM step lexer

/-- The tokens of a text that has been read to its end. -/
def finish (lexer : Lexer) : Option (List Token) :=
  if lexer.quote = .outside ∧ lexer.outer.isEmpty then some lexer.frame.flushed else none

@[simp]
theorem run_nil (lexer : Lexer) : lexer.run [] = some lexer := rfl

theorem run_cons (lexer : Lexer) (char : Char) (rest : List Char) :
    lexer.run (char :: rest) = (lexer.step char).bind fun next => next.run rest :=
  List.foldlM_cons

theorem run_append (lexer : Lexer) (first second : List Char) :
    lexer.run (first ++ second) = (lexer.run first).bind fun next => next.run second :=
  List.foldlM_append

end Lexer

/-- The tokens of a text, unless a quote or a parenthesis is left open. -/
def Token.ofText? (text : String) : Option (List Token) :=
  (Lexer.start.run text.toList).bind Lexer.finish

@[simp]
theorem Frame.grow_nil (frame : Frame) : frame.grow [] = frame := by
  simp [grow]

@[simp]
theorem Frame.grow_grow (frame : Frame) (first second : List Char) :
    (frame.grow first).grow second = frame.grow (first ++ second) := by
  simp [grow]

/-- Reading the text outside quotes leads from one frame to another, whatever is around them. -/
def Leads (text : String) (frame later : Frame) : Prop :=
  ∀ outer : List Frame, Lexer.run ⟨.outside, frame, outer⟩ text.toList =
    some ⟨.outside, later, outer⟩

/-- The text only adds to the word that is being read. -/
def Extends (text : String) : Prop := ∀ frame : Frame, Leads text frame (frame.grow text.toList)

/-- The text leaves no quote or parenthesis open and closes none before it. -/
def Closed (text : String) : Prop := ∀ frame : Frame, ∃ later : Frame, Leads text frame later

/-- Read between words, the text gives these tokens. -/
def Spells (text : String) (tokens : List Token) : Prop :=
  ∀ frame : Frame, frame.word = [] → ∃ later : Frame,
    Leads text frame later ∧ later.flushed = frame.tokens ++ tokens

/-- A character that does not end a word, and with which no quote or comment starts. -/
def IsWordChar (char : Char) : Prop :=
  char ∉ ['\'', '"', '(', ')', ',', '-', '*'] ∧ char.isWhitespace = false

instance (char : Char) : Decidable (IsWordChar char) :=
  inferInstanceAs (Decidable (_ ∧ _))

/-- A character with which no quote, parenthesis or comment starts or ends. -/
def IsSafeChar (char : Char) : Prop := char ∉ ['\'', '"', '(', ')', '-', '*']

instance (char : Char) : Decidable (IsSafeChar char) :=
  inferInstanceAs (Decidable (_ ∉ _))

/-- A text without quotes, parentheses and comments. -/
def IsSafe (text : String) : Prop := ∀ char ∈ text.toList, IsSafeChar char

instance (text : String) : Decidable (IsSafe text) :=
  List.decidableBAll IsSafeChar text.toList

/-- A text of word characters. -/
def IsPlainWord (text : String) : Prop := ∀ char ∈ text.toList, IsWordChar char

instance (text : String) : Decidable (IsPlainWord text) :=
  List.decidableBAll IsWordChar text.toList

namespace Lexer

variable {frame : Frame} {outer : List Frame} {char : Char}

theorem step_inside (quote : Char) :
    step ⟨.inside quote, frame, outer⟩ char =
      some ⟨(QuoteState.inside quote).next char, frame.grow [char], outer⟩ :=
  rfl

theorem step_quote (quote : char = '\'' ∨ char = '"') :
    step ⟨.outside, frame, outer⟩ char = some ⟨.inside char, frame.grow [char], outer⟩ := by
  rcases quote with rfl | rfl <;> rfl

theorem step_word (plain : IsWordChar char) :
    step ⟨.outside, frame, outer⟩ char = some ⟨.outside, frame.grow [char], outer⟩ := by
  obtain ⟨apart, notBlank⟩ := plain
  simp only [List.mem_cons, List.not_mem_nil, or_false, not_or] at apart
  obtain ⟨notSingle, notDouble, notOpen, notClose, notComma, notDash, notStar⟩ := apart
  simp [step, QuoteState.next, Frame.opensComment, notSingle, notDouble, notOpen, notClose,
    notComma, notDash, notStar, notBlank]

theorem step_open : step ⟨.outside, frame, outer⟩ '(' =
    some ⟨.outside, .start, frame :: outer⟩ := by
  rfl

theorem step_close (inner : Frame) : step ⟨.outside, inner, frame :: outer⟩ ')' =
    some ⟨.outside, frame.enclose inner, outer⟩ := by
  rfl

/-- Outside quotes, a safe character stays within the part that is open. -/
theorem step_safe (safe : IsSafeChar char) (frame : Frame) : ∃ later : Frame,
    ∀ outer, step ⟨.outside, frame, outer⟩ char = some ⟨.outside, later, outer⟩ := by
  unfold IsSafeChar at safe
  simp only [List.mem_cons, List.not_mem_nil, or_false, not_or] at safe
  obtain ⟨notSingle, notDouble, notOpen, notClose, notDash, notStar⟩ := safe
  by_cases comma : char = ','
  · subst comma
    exact ⟨frame.separate [','] [.comma], fun _ => rfl⟩
  · by_cases blank : char.isWhitespace
    · refine ⟨frame.separate [char] [], fun _ => ?_⟩
      simp [step, notOpen, notClose, comma, blank]
    · refine ⟨frame.grow [char], fun _ => step_word ⟨?_, by simpa using blank⟩⟩
      simp [notSingle, notDouble, notOpen, notClose, comma, notDash, notStar]

/-- What has been read before the innermost part that is open. -/
def before : List Frame → List Char
  | [] => []
  | frame :: rest => before rest ++ frame.text ++ ['(']

/-- All that has been read. -/
def written (lexer : Lexer) : List Char := before lexer.outer ++ lexer.frame.text

theorem written_step {lexer next : Lexer} (stepped : lexer.step char = some next) :
    next.written = lexer.written ++ [char] := by
  obtain ⟨quote, frame, outer⟩ := lexer
  unfold step at stepped
  cases quote with
  | inside quote =>
      obtain rfl := Option.some.inj stepped
      simp [written, Frame.grow]
  | outside =>
      dsimp only at stepped
      split at stepped
      case isTrue opened =>
          obtain rfl := Option.some.inj stepped
          simp [written, before, Frame.start, opened]
      split at stepped
      case isTrue closed =>
          cases outer with
          | nil => exact nomatch stepped
          | cons inside rest =>
              obtain rfl := Option.some.inj stepped
              simp [written, before, Frame.enclose, Frame.separate, closed]
      split at stepped
      · obtain rfl := Option.some.inj stepped
        simp [written, Frame.separate]
      split at stepped
      · obtain rfl := Option.some.inj stepped
        simp [written, Frame.separate]
      split at stepped
      · exact nomatch stepped
      · obtain rfl := Option.some.inj stepped
        simp [written, Frame.grow]

theorem written_run {lexer last : Lexer} {chars : List Char}
    (ran : lexer.run chars = some last) : last.written = lexer.written ++ chars := by
  induction chars generalizing lexer with
  | nil =>
      obtain rfl := Option.some.inj ran
      rw [List.append_nil]
  | cons char rest ih =>
      rw [run_cons] at ran
      obtain ⟨next, stepped, ran⟩ := Option.bind_eq_some_iff.1 ran
      rw [ih ran, written_step stepped, List.append_assoc, List.singleton_append]

end Lexer

/-- A frame holds the text that it was read from. -/
theorem Leads.text_eq {text : String} {frame later : Frame} (leads : Leads text frame later) :
    later.text = frame.text ++ text.toList :=
  Lexer.written_run (leads [])

end EntityQuery.Predicate

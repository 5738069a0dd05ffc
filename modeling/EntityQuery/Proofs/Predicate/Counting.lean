import EntityQuery.Proofs.Placeholder.Scan
import EntityQuery.Proofs.Predicate.Reading

/-!
# Placeholders of a condition

Reading loses no placeholder: the predicate that a text says has as many of them as the text.  The
lexer keeps count in each part that is open, the reader on each level, and the keywords that neither
of them keeps hold no placeholder.
-/

namespace EntityQuery

open Placeholder

namespace Placeholder

/-- The placeholders of several texts. -/
def total : List String → Nat
  | [] => 0
  | text :: rest => count text + total rest

@[simp]
theorem total_append (first second : List String) :
    total (first ++ second) = total first + total second := by
  induction first with
  | nil => simp [total]
  | cons text rest ih => simp [total, ih, Nat.add_assoc]

end Placeholder

namespace Test

/-- What a test is written with, its keywords apart. -/
def texts : Test → List String
  | .nullTest _ target => [target]
  | .compare _ target operand | .isIn target operand | .quantified _ target operand =>
      [target, operand]
  | .between target low high => [target, low, high]
  | .exists operand => [operand]
  | .other atoms => atoms

def placeholders (test : Test) : Nat := total test.texts

theorem count_of_comparisonOf? {word : String} {comparison : Comparison}
    (known : comparisonOf? word = some comparison) : count word = 0 := by
  unfold comparisonOf? at known
  split at known <;> first | rfl | exact nomatch known

theorem count_of_quantifierOf? {word : String} {quantifier : Quantifier}
    (known : quantifierOf? word = some quantifier) : count word = 0 := by
  unfold quantifierOf? at known
  split at known <;> first | rfl | exact nomatch known

theorem placeholders_ofAtoms (atoms : List String) :
    (ofAtoms atoms).placeholders = total atoms := by
  have keywords : count "EXISTS" = 0 ∧ count "IS" = 0 ∧ count "NOT" = 0 ∧ count "NULL" = 0 ∧
      count "IN" = 0 ∧ count "BETWEEN" = 0 ∧ count "AND" = 0 ∧ count "=" = 0 := by
    decide
  unfold ofAtoms
  split
  case h_6 target keyword operand _ _ =>
      split
      next known => simp [placeholders, texts, total, count_of_comparisonOf? known]
      next => rfl
  case h_7 target keyword operand =>
      split
      next known => simp [placeholders, texts, total, keywords, count_of_quantifierOf? known]
      next => rfl
  all_goals simp [placeholders, texts, total, keywords]

end Test

namespace Predicate

mutual

/-- The placeholders of the tests of a predicate. -/
def placeholders : Predicate → Nat
  | .test held => held.placeholders
  | .not operand => operand.placeholders
  | .junction _ operands => placeholdersOf operands

def placeholdersOf : List Predicate → Nat
  | [] => 0
  | first :: rest => first.placeholders + placeholdersOf rest

end

@[simp]
theorem placeholdersOf_append (first second : List Predicate) :
    placeholdersOf (first ++ second) = placeholdersOf first + placeholdersOf second := by
  induction first with
  | nil => simp [placeholdersOf]
  | cons head rest ih => simp [placeholdersOf, ih, Nat.add_assoc]

@[simp]
theorem placeholdersOf_singleton (tree : Predicate) :
    placeholdersOf [tree] = tree.placeholders := by
  simp [placeholdersOf]

theorem placeholders_negated (negations : Nat) (tree : Predicate) :
    (negated negations tree).placeholders = tree.placeholders := by
  induction negations generalizing tree with
  | zero => rfl
  | succ negations ih => exact (ih (.not tree)).trans rfl

theorem placeholders_of_combined? {connective : Junction} {trees : List Predicate}
    {tree : Predicate} (combined : combined? connective trees = some tree) :
    tree.placeholders = placeholdersOf trees := by
  match trees with
  | [] => exact nomatch combined
  | [only] =>
      obtain rfl := Option.some.inj combined
      exact (placeholdersOf_singleton only).symm
  | _ :: _ :: _ =>
      obtain rfl := Option.some.inj combined
      rfl

section Levels

/-- A part in parentheses has the placeholders of what it says. -/
def Part.IsCounted : Part → Prop
  | .word _ => True
  | .enclosed text inside => ∀ tree ∈ inside, tree.placeholders = count text

variable {part : Part} {parts : List Part} {level next : Level} {tree : Predicate}

/-- A keyword in capitals is a word of letters. -/
theorem count_of_keyword? {keyword : Keyword} (known : part.keyword? = some keyword) :
    count part.text = 0 := by
  cases part with
  | enclosed text inside => exact nomatch known
  | word text =>
      have found : Keyword.ofWord? text = some keyword := known
      have spelled : keyword.spelling.toList = text.toList.map Char.toUpper := by
        have same := List.find?_some found
        exact beq_iff_eq.1 same
      refine (isQuiet_of_isInert text fun char member => ?_).2
      have upper : char.toUpper ∈ keyword.spelling.toList := by
        rw [spelled]
        exact List.mem_map_of_mem member
      refine ⟨?_, ?_, ?_⟩ <;> rintro rfl <;> cases keyword <;> exact absurd upper (by decide)

theorem placeholders_of_ofAtoms? (counted : ∀ part ∈ parts, part.IsCounted)
    (made : ofAtoms? parts = some tree) :
    tree.placeholders = total (parts.map Part.text) := by
  unfold ofAtoms? at made
  split at made
  case h_1 => exact nomatch made
  case h_2 text inside =>
      have same := counted _ (List.mem_singleton_self _) tree made
      rw [same]
      simp [Part.text, total]
  case h_3 =>
      obtain rfl := Option.some.inj made
      rw [placeholders, Test.placeholders_ofAtoms]

namespace Level

/-- The placeholders of what has been read. -/
def placeholders (level : Level) : Nat :=
  placeholdersOf level.alternatives + placeholdersOf level.conjuncts +
    total (level.atoms.map Part.text)

theorem placeholders_addAtom (level : Level) (part : Part) :
    (level.addAtom part).placeholders = level.placeholders + count part.text := by
  simp [placeholders, addAtom, total, Nat.add_assoc]

theorem placeholders_endTest? (counted : ∀ part ∈ level.atoms, part.IsCounted)
    (ended : level.endTest? = some next) :
    next.placeholders = level.placeholders ∧ next.atoms = [] := by
  unfold endTest? at ended
  split at ended
  · exact nomatch ended
  · obtain ⟨tree, made, rfl⟩ := Option.map_eq_some_iff.1 ended
    have gathered := placeholders_of_ofAtoms? counted made
    simp [placeholders, placeholders_negated, gathered, total, Nat.add_assoc]

theorem placeholders_endConjunction? (ended : level.endConjunction? = some next) :
    next.placeholders = level.placeholders ∧ next.atoms = level.atoms := by
  obtain ⟨tree, made, rfl⟩ := Option.map_eq_some_iff.1 ended
  have gathered := placeholders_of_combined? made
  simp [placeholders, placeholdersOf, gathered]

/-- A level with the placeholders of another one and of a further part, and with counted atoms. -/
def Gains (level next : Level) (gained : Nat) : Prop :=
  next.placeholders = level.placeholders + gained ∧ ∀ part ∈ next.atoms, part.IsCounted

theorem gains_addAtom (counted : ∀ part ∈ level.atoms, part.IsCounted)
    (partCounted : part.IsCounted) : level.Gains (level.addAtom part) (count part.text) := by
  refine ⟨placeholders_addAtom level part, fun other member => ?_⟩
  rcases List.mem_append.1 member with inside | last
  · exact counted other inside
  · obtain rfl := List.mem_singleton.1 last
    exact partCounted

theorem gains_step (counted : ∀ part ∈ level.atoms, part.IsCounted) (partCounted : part.IsCounted)
    (stepped : level.step part = some next) : level.Gains next (count part.text) := by
  have added := gains_addAtom counted partCounted
  have keyword {keyword : Keyword} {ended : Level} (known : part.keyword? = some keyword)
      (same : ended.placeholders = level.placeholders) (fresh : ended.atoms = []) :
      level.Gains ended (count part.text) := by
    refine ⟨by rw [same, count_of_keyword? known, Nat.add_zero], ?_⟩
    rw [fresh]
    exact nofun
  unfold step at stepped
  split at stepped
  case h_1 known =>
      split at stepped
      · obtain rfl := Option.some.inj stepped
        exact added
      · obtain ⟨same, fresh⟩ := placeholders_endTest? counted stepped
        exact keyword known same fresh
  case h_2 known =>
      obtain ⟨ended, testEnded, conjunctionEnded⟩ := Option.bind_eq_some_iff.1 stepped
      obtain ⟨same, fresh⟩ := placeholders_endTest? counted testEnded
      obtain ⟨sameAgain, kept⟩ := placeholders_endConjunction? conjunctionEnded
      exact keyword known (sameAgain.trans same) (kept.trans fresh)
  case h_3 known =>
      split at stepped
      case isTrue fresh =>
          obtain rfl := Option.some.inj stepped
          exact keyword known rfl (List.isEmpty_iff.1 fresh)
      case isFalse =>
          obtain rfl := Option.some.inj stepped
          exact added
  case h_4 known =>
      split at stepped
      · exact nomatch stepped
      · obtain rfl := Option.some.inj stepped
        exact added
  case h_5 =>
      obtain rfl := Option.some.inj stepped
      exact added

theorem gains_run (counted : ∀ part ∈ level.atoms, part.IsCounted)
    (partsCounted : ∀ part ∈ parts, part.IsCounted) (ran : level.run parts = some next) :
    level.Gains next (total (parts.map Part.text)) := by
  induction parts generalizing level with
  | nil =>
      obtain rfl := Option.some.inj ran
      exact ⟨rfl, counted⟩
  | cons part rest ih =>
      obtain ⟨partCounted, restCounted⟩ := List.forall_mem_cons.1 partsCounted
      rw [run_cons] at ran
      obtain ⟨middle, stepped, ran⟩ := Option.bind_eq_some_iff.1 ran
      obtain ⟨first, middleCounted⟩ := gains_step counted partCounted stepped
      obtain ⟨others, lastCounted⟩ := ih middleCounted restCounted ran
      refine ⟨?_, lastCounted⟩
      rw [others, first, List.map_cons, total, Nat.add_assoc]

end Level

theorem placeholders_of_ofParts? (counted : ∀ part ∈ parts, part.IsCounted)
    (known : ofParts? parts = some tree) :
    tree.placeholders = total (parts.map Part.text) := by
  obtain ⟨last, ran, finished⟩ := Option.bind_eq_some_iff.1 known
  obtain ⟨closed, ending, combined⟩ := Option.bind_eq_some_iff.1 finished
  obtain ⟨ended, testEnded, conjunctionEnded⟩ := Option.bind_eq_some_iff.1 ending
  obtain ⟨gathered, lastCounted⟩ := Level.gains_run (List.forall_mem_nil _) counted ran
  obtain ⟨same, fresh⟩ := Level.placeholders_endTest? lastCounted testEnded
  obtain ⟨sameAgain, kept⟩ := Level.placeholders_endConjunction? conjunctionEnded
  have nothing : closed.conjuncts = [] := by
    obtain ⟨_, -, rfl⟩ := Option.map_eq_some_iff.1 conjunctionEnded
    rfl
  have whole : closed.placeholders = placeholdersOf closed.alternatives := by
    simp [Level.placeholders, nothing, kept.trans fresh, placeholdersOf, total]
  have started : Level.start.placeholders = 0 := rfl
  rw [placeholders_of_combined? combined, ← whole, sameAgain, same, gathered, started,
    Nat.zero_add]

end Levels

section Tokens

namespace Token

def text : Token → String
  | .word text | .enclosed text _ => text
  | .comma => ","

/-- The placeholders of tokens. -/
def placeholders (tokens : List Token) : Nat := total (tokens.map text)

@[simp]
theorem placeholders_append (first second : List Token) :
    placeholders (first ++ second) = placeholders first + placeholders second := by
  simp [placeholders]

mutual

/-- The tokens inside a part in parentheses have all of its placeholders. -/
def IsCounted : Token → Prop
  | .word _ | .comma => True
  | .enclosed text tokens => placeholders tokens = count text ∧ AreCounted tokens

def AreCounted : List Token → Prop
  | [] => True
  | token :: rest => token.IsCounted ∧ AreCounted rest

end

theorem areCounted_append {first second : List Token} (one : AreCounted first)
    (two : AreCounted second) : AreCounted (first ++ second) := by
  induction first with
  | nil => exact two
  | cons token rest ih => exact ⟨one.1, ih one.2⟩

mutual

theorem isCounted_part? : ∀ (token : Token) {part : Part}, token.IsCounted →
    token.part? = some part → part.IsCounted ∧ part.text = token.text
  | .word _, part, _, known => by
      obtain rfl := Option.some.inj known
      exact ⟨trivial, rfl⟩
  | .comma, _, _, known => nomatch known
  | .enclosed text tokens, part, ⟨inside, counted⟩, known => by
      rw [part?] at known
      obtain rfl := Option.some.inj known
      refine ⟨fun tree said => ?_, rfl⟩
      obtain ⟨parts, given, read⟩ := Option.bind_eq_some_iff.1 said
      obtain ⟨partsCounted, same⟩ := areCounted_parts? tokens counted given
      rw [placeholders_of_ofParts? partsCounted read, same, ← inside]
      rfl

theorem areCounted_parts? : ∀ (tokens : List Token) {parts : List Part}, AreCounted tokens →
    parts? tokens = some parts →
    (∀ part ∈ parts, part.IsCounted) ∧ parts.map Part.text = tokens.map text
  | [], parts, _, known => by
      obtain rfl := Option.some.inj known
      exact ⟨List.forall_mem_nil _, rfl⟩
  | token :: rest, parts, ⟨tokenCounted, restCounted⟩, known => by
      rw [parts?] at known
      split at known
      next part others tokenKnown restKnown =>
          obtain rfl := Option.some.inj known
          obtain ⟨partCounted, sameText⟩ := isCounted_part? token tokenCounted tokenKnown
          obtain ⟨othersCounted, same⟩ := areCounted_parts? rest restCounted restKnown
          refine ⟨List.forall_mem_cons.2 ⟨partCounted, othersCounted⟩, ?_⟩
          rw [List.map_cons, List.map_cons, same, sameText]
      next => exact nomatch known

end

end Token

/-- The text of a part that is open is read up to this state, as the word at its end is, and its
placeholders are in the tokens and in that word. -/
structure Frame.IsCounted (quote : QuoteState) (frame : Frame) : Prop where
  text_after : QuoteState.outside.after frame.text = quote
  word_after : QuoteState.outside.after frame.word = quote
  tokens : Token.AreCounted frame.tokens
  count_eq : countFrom .outside frame.text =
    Token.placeholders frame.tokens + countFrom .outside frame.word

namespace Frame.IsCounted

variable {quote : QuoteState} {frame : Frame}

theorem start : Frame.start.IsCounted .outside := ⟨rfl, rfl, trivial, rfl⟩

theorem grow (counted : frame.IsCounted quote) (char : Char) :
    (frame.grow [char]).IsCounted (quote.next char) where
  text_after := by
    rw [Frame.grow, QuoteState.after_append, counted.text_after]
    rfl
  word_after := by
    rw [Frame.grow, QuoteState.after_append, counted.word_after]
    rfl
  tokens := counted.tokens
  count_eq := by
    rw [Frame.grow, countFrom_append, countFrom_append, counted.text_after, counted.word_after,
      counted.count_eq, Nat.add_assoc]

theorem flushed (counted : frame.IsCounted quote) : Token.AreCounted frame.flushed ∧
    Token.placeholders frame.flushed = countFrom .outside frame.text := by
  rw [counted.count_eq]
  unfold Frame.flushed
  split
  case isTrue nothing =>
      rw [nothing]
      exact ⟨counted.tokens, rfl⟩
  case isFalse =>
      refine ⟨Token.areCounted_append counted.tokens ⟨trivial, trivial⟩, ?_⟩
      rw [Token.placeholders_append]
      simp [Token.placeholders, Token.text, total, count_eq_countFrom]

theorem separate (counted : frame.IsCounted .outside) {chars : List Char} {tokens : List Token}
    (closed : QuoteState.outside.after chars = .outside) (tokensCounted : Token.AreCounted tokens)
    (same : countFrom .outside chars = Token.placeholders tokens) :
    (frame.separate chars tokens).IsCounted .outside where
  text_after := by
    rw [Frame.separate, QuoteState.after_append, counted.text_after, closed]
  word_after := rfl
  tokens := Token.areCounted_append counted.flushed.1 tokensCounted
  count_eq := by
    rw [Frame.separate, countFrom_append, counted.text_after, same, Token.placeholders_append,
      counted.flushed.2]
    rfl

theorem enclose {inner : Frame} (counted : frame.IsCounted .outside)
    (innerCounted : inner.IsCounted .outside) : (frame.enclose inner).IsCounted .outside := by
  have opened : QuoteState.outside.next '(' = .outside := rfl
  have scanned : QuoteState.outside.after ('(' :: inner.text ++ [')']) = .outside ∧
      countFrom .outside ('(' :: inner.text ++ [')']) = countFrom .outside inner.text := by
    rw [List.cons_append, QuoteState.after_cons, countFrom, opened, QuoteState.after_append,
      countFrom_append, innerCounted.text_after]
    exact ⟨rfl, Nat.zero_add _⟩
  have whole : Token.placeholders inner.flushed =
      count (.ofList ('(' :: inner.text ++ [')'])) := by
    rw [count_eq_countFrom, String.toList_ofList, scanned.2, innerCounted.flushed.2]
  refine counted.separate scanned.1 ⟨⟨whole, innerCounted.flushed.1⟩, trivial⟩ ?_
  rw [scanned.2, ← innerCounted.flushed.2, whole]
  simp [Token.placeholders, Token.text, total]

end Frame.IsCounted

namespace Lexer

/-- The placeholders of each part that is open are counted. -/
def IsCounted (lexer : Lexer) : Prop :=
  lexer.frame.IsCounted lexer.quote ∧ ∀ frame ∈ lexer.outer, frame.IsCounted .outside

theorem isCounted_step {lexer next : Lexer} {char : Char} (counted : lexer.IsCounted)
    (stepped : lexer.step char = some next) : next.IsCounted := by
  obtain ⟨quote, frame, outer⟩ := lexer
  obtain ⟨own, around⟩ := counted
  have grown : IsCounted ⟨quote.next char, frame.grow [char], outer⟩ := ⟨own.grow char, around⟩
  unfold step at stepped
  cases quote with
  | inside quote =>
      obtain rfl := Option.some.inj stepped
      exact grown
  | outside =>
      dsimp only at stepped
      split at stepped
      · obtain rfl := Option.some.inj stepped
        exact ⟨.start, List.forall_mem_cons.2 ⟨own, around⟩⟩
      split at stepped
      · cases outer with
        | nil => contradiction
        | cons above rest =>
            obtain rfl := Option.some.inj stepped
            obtain ⟨aboveCounted, restCounted⟩ := List.forall_mem_cons.1 around
            exact ⟨aboveCounted.enclose own, restCounted⟩
      split at stepped
      case isTrue comma =>
          obtain rfl := Option.some.inj stepped
          subst comma
          exact ⟨own.separate rfl ⟨trivial, trivial⟩ rfl, around⟩
      split at stepped
      case isTrue blank =>
          obtain rfl := Option.some.inj stepped
          have inert : IsInertChar char := by
            refine ⟨?_, ?_, ?_⟩ <;> rintro rfl <;> exact absurd blank (by decide)
          have closed : QuoteState.outside.after [char] = .outside := by
            simp [QuoteState.after, QuoteState.next, inert.1, inert.2.1]
          have silent : countFrom .outside [char] = 0 := by
            simp [countFrom, isPlaceholder, inert.2.2]
          exact ⟨own.separate closed trivial silent, around⟩
      split at stepped
      · contradiction
      · obtain rfl := Option.some.inj stepped
        exact grown

theorem isCounted_run {lexer last : Lexer} {chars : List Char} (counted : lexer.IsCounted)
    (ran : lexer.run chars = some last) : last.IsCounted := by
  induction chars generalizing lexer with
  | nil =>
      obtain rfl := Option.some.inj ran
      exact counted
  | cons char rest ih =>
      rw [run_cons] at ran
      obtain ⟨next, stepped, ran⟩ := Option.bind_eq_some_iff.1 ran
      exact ih (isCounted_step counted stepped) ran

end Lexer

theorem Token.areCounted_ofText? {text : String} {tokens : List Token}
    (known : ofText? text = some tokens) :
    AreCounted tokens ∧ placeholders tokens = count text := by
  obtain ⟨last, ran, finished⟩ := Option.bind_eq_some_iff.1 known
  obtain ⟨counted, -⟩ := Lexer.isCounted_run ⟨.start, List.forall_mem_nil _⟩ ran
  have written := Lexer.written_run ran
  unfold Lexer.finish at finished
  split at finished
  case isTrue closed =>
      obtain rfl := Option.some.inj finished
      have whole : last.frame.text = text.toList := by
        rw [Lexer.written, List.isEmpty_iff.1 closed.2] at written
        exact written
      rw [count_eq_countFrom, ← whole]
      exact counted.flushed
  case isFalse => contradiction

end Tokens

/-- What a text says has the placeholders of the text. -/
theorem placeholders_of_read {text : String} {tree : Predicate} (known : read text = some tree) :
    tree.placeholders = count text := by
  obtain ⟨parts, given, said⟩ := Option.bind_eq_some_iff.1 known
  obtain ⟨tokens, spelled, partsGiven⟩ := Option.bind_eq_some_iff.1 given
  obtain ⟨counted, whole⟩ := Token.areCounted_ofText? spelled
  obtain ⟨partsCounted, same⟩ := Token.areCounted_parts? tokens counted partsGiven
  rw [placeholders_of_ofParts? partsCounted said, same, ← whole]
  rfl

end Predicate

end EntityQuery

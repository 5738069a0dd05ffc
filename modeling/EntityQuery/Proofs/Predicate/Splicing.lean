import EntityQuery.Proofs.Predicate.Combining

/-!
# Texts spliced into a condition

A text that can be read on its own has the same parts wherever it is spliced in between words.  As
long as none of these parts is an OR, what it says between ANDs is what it says alone.
-/

namespace EntityQuery.Predicate

open Placeholder

/-- A frame that goes on from one that was read before it. -/
def Frame.follow (base frame : Frame) : Frame :=
  ⟨base.text ++ frame.text, base.tokens ++ frame.tokens, frame.word⟩

namespace Frame

variable (base frame : Frame)

theorem flushed_follow : (base.follow frame).flushed = base.tokens ++ frame.flushed := by
  unfold flushed follow
  split_ifs <;> simp

theorem grow_follow (chars : List Char) :
    (base.follow frame).grow chars = base.follow (frame.grow chars) := by
  simp [grow, follow]

theorem separate_follow (chars : List Char) (tokens : List Token) :
    (base.follow frame).separate chars tokens = base.follow (frame.separate chars tokens) := by
  unfold separate
  rw [flushed_follow]
  simp [follow]

theorem enclose_follow (inner : Frame) :
    (base.follow frame).enclose inner = base.follow (frame.enclose inner) := by
  unfold enclose
  rw [separate_follow]

end Frame

namespace Lexer

variable (base : Frame) (around : List Frame)

/-- The frames of a reading with its outermost one going on from another, and more around it. -/
def onFrames (frame : Frame) : List Frame → Frame × List Frame
  | [] => (base.follow frame, around)
  | next :: rest => (frame, (onFrames next rest).1 :: (onFrames next rest).2)

/-- A reading that began in another frame instead of at the start. -/
def onto (lexer : Lexer) : Lexer :=
  ⟨lexer.quote, (onFrames base around lexer.frame lexer.outer).1,
    (onFrames base around lexer.frame lexer.outer).2⟩

/-- What is read next is the same. -/
theorem step_onto {lexer next : Lexer} {char : Char} (stepped : lexer.step char = some next) :
    (lexer.onto base around).step char = some (next.onto base around) := by
  -- Only the outermost frame differs, so it matters whether a part is open when a character is
  -- read.
  obtain ⟨quote, frame, outer⟩ := lexer
  unfold step at stepped
  cases quote with
  | inside quote =>
      obtain rfl := Option.some.inj stepped
      cases outer with
      | nil => simp [onto, onFrames, step, Frame.grow_follow]
      | cons _ _ => simp [onto, onFrames, step]
  | outside =>
      dsimp only at stepped
      split at stepped
      case isTrue opened =>
          obtain rfl := Option.some.inj stepped
          simp [onto, onFrames, step, opened]
      case isFalse notOpen =>
      split at stepped
      case isTrue closed =>
          cases outer with
          | nil => contradiction
          | cons inside rest =>
              obtain rfl := Option.some.inj stepped
              cases rest with
              | nil => simp [onto, onFrames, step, closed, Frame.enclose_follow]
              | cons _ _ => simp [onto, onFrames, step, closed]
      case isFalse notClose =>
      split at stepped
      case isTrue comma =>
          obtain rfl := Option.some.inj stepped
          cases outer with
          | nil => simp [onto, onFrames, step, comma, Frame.separate_follow]
          | cons _ _ => simp [onto, onFrames, step, comma]
      case isFalse notComma =>
      split at stepped
      case isTrue blank =>
          obtain rfl := Option.some.inj stepped
          cases outer with
          | nil => simp [onto, onFrames, step, notOpen, notClose, notComma, blank,
              Frame.separate_follow]
          | cons _ _ => simp [onto, onFrames, step, notOpen, notClose, notComma, blank]
      case isFalse notBlank =>
      split at stepped
      case isTrue comment => contradiction
      case isFalse noComment =>
          obtain rfl := Option.some.inj stepped
          cases outer with
          | nil =>
              have followed : (base.follow frame).opensComment char = false := by
                simpa [Frame.opensComment, Frame.follow] using noComment
              simp [onto, onFrames, step, notOpen, notClose, notComma, notBlank, followed,
                Frame.grow_follow]
          | cons _ _ =>
              simp [onto, onFrames, step, notOpen, notClose, notComma, notBlank, noComment]

theorem run_onto {lexer last : Lexer} {chars : List Char} (ran : lexer.run chars = some last) :
    (lexer.onto base around).run chars = some (last.onto base around) := by
  induction chars generalizing lexer with
  | nil =>
      obtain rfl := Option.some.inj ran
      rfl
  | cons char rest ih =>
      rw [run_cons] at ran ⊢
      obtain ⟨next, stepped, ran⟩ := Option.bind_eq_some_iff.1 ran
      rw [step_onto base around stepped, Option.bind_some, ih ran]

end Lexer

/-- The tokens of a text that can be read alone are spelled wherever it stands between words. -/
theorem Spells.of_ofText? {text : String} {tokens : List Token}
    (known : Token.ofText? text = some tokens) : Spells text tokens := by
  obtain ⟨last, ran, finished⟩ := Option.bind_eq_some_iff.1 known
  unfold Lexer.finish at finished
  split at finished
  case isTrue ended =>
      intro frame fresh
      obtain ⟨quote, later, outer⟩ := last
      obtain ⟨rfl, noOuter⟩ := ended
      obtain rfl := List.isEmpty_iff.1 noOuter
      refine ⟨frame.follow later, fun around => ?_, ?_⟩
      · have spliced := Lexer.run_onto frame around ran
        have started : Lexer.start.onto frame around = ⟨.outside, frame, around⟩ := by
          obtain ⟨text, tokens, word⟩ := frame
          obtain rfl : word = [] := fresh
          simp [Lexer.start, Lexer.onto, Lexer.onFrames, Frame.follow, Frame.start]
        rwa [started] at spliced
      · rw [Frame.flushed_follow, Option.some.inj finished]
  case isFalse => contradiction

variable {parts : List Part} {part : Part} {tree : Predicate}

namespace Level

variable {level next : Level}

/-- A level with more read before it. -/
def behind (alternatives conjuncts : List Predicate) (level : Level) : Level :=
  { level with
    alternatives := alternatives ++ level.alternatives
    conjuncts := conjuncts ++ level.conjuncts }

theorem endTest?_behind (alternatives conjuncts : List Predicate) (level : Level) :
    (level.behind alternatives conjuncts).endTest? =
      level.endTest?.map (behind alternatives conjuncts) := by
  unfold endTest? behind
  cases level.inRange with
  | true => rfl
  | false => cases ofAtoms? level.atoms <;> simp

/-- What is read before an OR is only added to. -/
theorem step_behind (free : part.keyword? ≠ some .or) (alternatives conjuncts : List Predicate)
    (level : Level) : (level.behind alternatives conjuncts).step part =
      (level.step part).map (behind alternatives conjuncts) := by
  have ended := endTest?_behind alternatives conjuncts level
  unfold step
  match keyword : part.keyword? with
  | some .or => exact absurd keyword free
  | some .and =>
      dsimp only
      rw [ended]
      cases within : level.inRange <;> simp [behind, within, addAtom]
  | some .not =>
      cases atoms : level.atoms <;> simp [behind, addAtom, atoms]
  | some .between =>
      cases atoms : level.atoms <;> cases within : level.inRange <;>
        simp [behind, addAtom, atoms, within]
  | none => rfl

theorem run_behind (free : ∀ part ∈ parts, part.keyword? ≠ some .or)
    (alternatives conjuncts : List Predicate) (level : Level) :
    (level.behind alternatives conjuncts).run parts =
      (level.run parts).map (behind alternatives conjuncts) := by
  induction parts generalizing level with
  | nil => rfl
  | cons part rest ih =>
      rw [run_cons, run_cons, step_behind (free part List.mem_cons_self)]
      cases level.step part with
      | none => rfl
      | some next => exact ih (fun other member => free other (List.mem_cons_of_mem _ member)) next

/-- The end of a test adds a conjunct and nothing else. -/
theorem endTest?_eq_some (ended : level.endTest? = some next) :
    ∃ tree, next = .between level.alternatives (level.conjuncts ++ [tree]) := by
  unfold endTest? at ended
  split at ended
  · exact nomatch ended
  · obtain ⟨tree, -, rfl⟩ := Option.map_eq_some_iff.1 ended
    exact ⟨_, rfl⟩

theorem alternatives_endTest? (ended : level.endTest? = some next) :
    next.alternatives = level.alternatives := by
  obtain ⟨tree, rfl⟩ := endTest?_eq_some ended
  rfl

/-- Only an OR adds an alternative. -/
theorem alternatives_step (stepped : level.step part = some next) :
    next.alternatives = level.alternatives ∧ part.keyword? ≠ some .or ∨
      next.alternatives ≠ [] ∧ part.keyword? = some .or := by
  unfold step at stepped
  match keyword : part.keyword? with
  | some .or =>
      rw [keyword] at stepped
      obtain ⟨ended, -, closed⟩ := Option.bind_eq_some_iff.1 stepped
      obtain ⟨predicate, -, rfl⟩ := Option.map_eq_some_iff.1 closed
      exact .inr ⟨by simp, rfl⟩
  | some .and =>
      rw [keyword] at stepped
      dsimp only at stepped
      split at stepped
      · obtain rfl := Option.some.inj stepped
        exact .inl ⟨rfl, nofun⟩
      · exact .inl ⟨alternatives_endTest? stepped, nofun⟩
  | some .not =>
      rw [keyword] at stepped
      dsimp only at stepped
      split at stepped <;> obtain rfl := Option.some.inj stepped <;> exact .inl ⟨rfl, nofun⟩
  | some .between =>
      rw [keyword] at stepped
      dsimp only at stepped
      split at stepped
      · exact nomatch stepped
      · obtain rfl := Option.some.inj stepped
        exact .inl ⟨rfl, nofun⟩
  | none =>
      rw [keyword] at stepped
      obtain rfl := Option.some.inj stepped
      exact .inl ⟨rfl, nofun⟩

/-- Whether a reading has met an OR outside parentheses. -/
theorem alternatives_run {last : Level} (ran : level.run parts = some last) :
    (last.alternatives = level.alternatives ∧ ∀ part ∈ parts, part.keyword? ≠ some .or) ∨
      last.alternatives ≠ [] ∧ ∃ part ∈ parts, part.keyword? = some .or := by
  induction parts generalizing level with
  | nil =>
      obtain rfl := Option.some.inj ran
      exact .inl ⟨rfl, nofun⟩
  | cons part rest ih =>
      rw [run_cons] at ran
      obtain ⟨next, stepped, ran⟩ := Option.bind_eq_some_iff.1 ran
      rcases ih ran with ⟨same, free⟩ | ⟨added, split, member, keyword⟩
      · rcases alternatives_step stepped with ⟨kept, partFree⟩ | ⟨added, keyword⟩
        · exact .inl ⟨same.trans kept, List.forall_mem_cons.2 ⟨partFree, free⟩⟩
        · exact .inr ⟨same ▸ added, part, List.mem_cons_self, keyword⟩
      · exact .inr ⟨added, split, List.mem_cons_of_mem _ member, keyword⟩

end Level

/-- The last conjunction and the alternatives before it are what the parts say. -/
theorem Level.finish_eq_some {level : Level} (finished : level.finish = some tree) :
    ∃ (ended : Level) (last : Predicate), level.endTest? = some ended ∧
      combined? .and ended.conjuncts = some last ∧
        combined? .or (level.alternatives ++ [last]) = some tree := by
  obtain ⟨closed, ending, combined⟩ := Option.bind_eq_some_iff.1 finished
  obtain ⟨ended, testEnded, conjoined⟩ := Option.bind_eq_some_iff.1 ending
  obtain ⟨last, lastGiven, rfl⟩ := Option.map_eq_some_iff.1 conjoined
  refine ⟨ended, last, testEnded, lastGiven, ?_⟩
  rw [← alternatives_endTest? testEnded]
  exact combined

/-- Without an OR outside parentheses, parts that say something say it between ANDs too. -/
theorem Conjoins.of_ofParts? (free : ∀ part ∈ parts, part.keyword? ≠ some .or)
    (known : ofParts? parts = some tree) :
    ∃ trees : List Predicate, Conjoins parts trees ∧ combined? .and trees = some tree := by
  obtain ⟨last, ran, finished⟩ := Option.bind_eq_some_iff.1 known
  obtain ⟨ended, conjunction, testEnded, combined, alternatives⟩ := Level.finish_eq_some finished
  have alone : last.alternatives = [] := by
    rcases Level.alternatives_run ran with ⟨same, -⟩ | ⟨-, part, member, keyword⟩
    · exact same
    · exact absurd keyword (free part member)
  -- The only alternative is the conjunction that the reading ends in.
  rw [alone] at alternatives
  obtain rfl := Option.some.inj alternatives
  refine ⟨ended.conjuncts, fun before conjuncts => ?_, combined⟩
  have behind : Level.between before conjuncts = Level.start.behind before conjuncts := by
    simp [Level.between, Level.behind, Level.start]
  refine ⟨last.behind before conjuncts, ?_, ?_⟩
  · rw [behind, Level.run_behind free, ran]
    rfl
  · rw [Level.endTest?_behind, testEnded]
    obtain ⟨test, rfl⟩ := Level.endTest?_eq_some testEnded
    rw [alone]
    simp [Level.behind, Level.between]

/-- With an OR outside parentheses, the parts say alternatives. -/
theorem junction_of_or (known : ofParts? parts = some tree) {part : Part} (member : part ∈ parts)
    (keyword : part.keyword? = some .or) : ∃ operands, tree = .junction .or operands := by
  obtain ⟨last, ran, finished⟩ := Option.bind_eq_some_iff.1 known
  obtain ⟨_, conjunction, -, -, alternatives⟩ := Level.finish_eq_some finished
  rcases Level.alternatives_run ran with ⟨-, free⟩ | ⟨added, -⟩
  · exact absurd keyword (free part member)
  · cases before : last.alternatives with
    | nil => exact absurd before added
    | cons first rest =>
        rw [before, List.cons_append] at alternatives
        cases rest <;> exact ⟨_, (Option.some.inj alternatives).symm⟩

end EntityQuery.Predicate

import EntityQuery.Proofs.Ident.Written
import EntityQuery.Proofs.Predicate.Token

/-!
# Texts put together from pieces

How the tokens of a text follow from those of its pieces: words are put together from pieces that
extend them, words and parts in parentheses follow each other between blanks, and closed texts can
stand anywhere.
-/

namespace EntityQuery

namespace Predicate

open Placeholder

variable {text first second : String} {tokens more : List Token} {frame middle later : Frame}

namespace Leads

theorem empty (frame : Frame) : Leads "" frame frame := fun _ => rfl

theorem append (one : Leads first frame middle) (two : Leads second middle later) :
    Leads (first ++ second) frame later := by
  intro outer
  rw [String.toList_append, Lexer.run_append, one, Option.bind_some, two]

theorem blank (frame : Frame) : Leads " " frame (frame.separate [' '] []) := fun _ => rfl

/-- A text in parentheses is read as one part, with the tokens that are read inside. -/
theorem parenthesized (inside : Leads text .start later) (frame : Frame) :
    Leads ("(" ++ text ++ ")") frame (frame.separate ("(" ++ text ++ ")").toList
      [.enclosed ("(" ++ text ++ ")") later.flushed]) := by
  intro outer
  have spelled : ("(" ++ text ++ ")").toList = '(' :: (text.toList ++ [')']) := by
    simp [String.toList_append]
  have shown : String.ofList ('(' :: (text.toList ++ [')'])) = "(" ++ text ++ ")" := by
    rw [← spelled, String.ofList_toList]
  have written : later.text = text.toList := inside.text_eq
  rw [spelled, Lexer.run_cons, Lexer.step_open, Option.bind_some, Lexer.run_append, inside,
    Option.bind_some, Lexer.run_cons, Lexer.step_close, Option.bind_some, Lexer.run_nil]
  dsimp only [Frame.enclose]
  rw [written, List.cons_append, shown]

end Leads

namespace Extends

theorem append (one : Extends first) (two : Extends second) : Extends (first ++ second) := by
  intro frame
  have both := (one frame).append (two (frame.grow first.toList))
  rwa [Frame.grow_grow, ← String.toList_append] at both

theorem of_isPlainWord (plain : IsPlainWord text) : Extends text := by
  intro frame outer
  unfold IsPlainWord at plain
  generalize text.toList = chars at plain ⊢
  induction chars generalizing frame with
  | nil => rw [Lexer.run_nil, Frame.grow_nil]
  | cons char rest ih =>
      rw [Lexer.run_cons, Lexer.step_word (plain char List.mem_cons_self), Option.bind_some,
        ih _ fun other member => plain other (List.mem_cons_of_mem _ member), Frame.grow_grow,
        List.singleton_append]

theorem closed (extended : Extends text) : Closed text := fun frame => ⟨_, extended frame⟩

theorem spells (extended : Extends text) (shown : text ≠ "") : Spells text [.word text] := by
  refine fun frame fresh => ⟨_, extended frame, ?_⟩
  have written : (frame.grow text.toList).word = text.toList := by
    rw [Frame.grow, fresh, List.nil_append]
  have nonempty : text.toList ≠ [] := by simpa using shown
  rw [Frame.flushed, written, if_neg nonempty, String.ofList_toList]
  rfl

end Extends

namespace Closed

theorem empty : Closed "" := fun frame => ⟨frame, .empty frame⟩

theorem append (one : Closed first) (two : Closed second) : Closed (first ++ second) := by
  intro frame
  obtain ⟨middle, before⟩ := one frame
  obtain ⟨later, after⟩ := two middle
  exact ⟨later, before.append after⟩

theorem of_isSafe (safe : IsSafe text) : Closed text := by
  intro frame
  unfold IsSafe at safe
  unfold Leads
  generalize text.toList = chars at safe ⊢
  induction chars generalizing frame with
  | nil => exact ⟨frame, fun _ => rfl⟩
  | cons char rest ih =>
      obtain ⟨middle, stepped⟩ := Lexer.step_safe (safe char List.mem_cons_self) frame
      obtain ⟨later, ran⟩ := ih middle fun other member =>
        safe other (List.mem_cons_of_mem _ member)
      refine ⟨later, fun outer => ?_⟩
      rw [Lexer.run_cons, stepped, Option.bind_some, ran]

theorem intercalate {separator : String} {texts : List String} (between : Closed separator)
    (closed : ∀ text ∈ texts, Closed text) : Closed (separator.intercalate texts) := by
  induction texts with
  | nil => simpa using empty
  | cons text rest ih =>
      have first := closed text List.mem_cons_self
      have others := ih fun other member => closed other (List.mem_cons_of_mem _ member)
      cases rest with
      | nil => simpa using first
      | cons next rest =>
          rw [String.intercalate_cons_cons]
          exact (first.append between).append others

theorem parenthesized (closed : Closed text) : Closed ("(" ++ text ++ ")") := by
  intro frame
  obtain ⟨inner, inside⟩ := closed .start
  exact ⟨_, inside.parenthesized frame⟩

/-- A closed text in parentheses is one token, whatever is inside. -/
theorem spells (closed : Closed text) : ∃ inside : List Token,
    Spells ("(" ++ text ++ ")") [.enclosed ("(" ++ text ++ ")") inside] := by
  obtain ⟨inner, inside⟩ := closed .start
  refine ⟨inner.flushed, fun frame fresh => ⟨_, inside.parenthesized frame, ?_⟩⟩
  change frame.flushed ++ _ = _
  rw [Frame.flushed, if_pos fresh]

end Closed

namespace Spells

theorem empty : Spells "" [] := fun frame fresh =>
  ⟨frame, .empty frame, by rw [Frame.flushed, if_pos fresh, List.append_nil]⟩

/-- Between two texts stands a blank. -/
theorem append (one : Spells first tokens) (two : Spells second more) :
    Spells (first ++ " " ++ second) (tokens ++ more) := by
  intro frame fresh
  obtain ⟨middle, before, read⟩ := one frame fresh
  obtain ⟨later, after, others⟩ := two (middle.separate [' '] []) rfl
  refine ⟨later, (before.append (.blank middle)).append after, ?_⟩
  rw [others]
  change middle.flushed ++ [] ++ more = _
  rw [List.append_nil, read, List.append_assoc]

/-- A text in parentheses is one token, with the tokens of the text inside. -/
theorem parenthesized (spells : Spells text tokens) :
    Spells ("(" ++ text ++ ")") [.enclosed ("(" ++ text ++ ")") tokens] := by
  intro frame fresh
  obtain ⟨inner, inside, read⟩ := spells .start rfl
  refine ⟨_, inside.parenthesized frame, ?_⟩
  rw [read]
  change frame.flushed ++ _ = _
  rw [Frame.flushed, if_pos fresh]
  rfl

theorem ofText? (spells : Spells text tokens) : Token.ofText? text = some tokens := by
  obtain ⟨later, reading, read⟩ := spells .start rfl
  unfold Token.ofText?
  have ran : Lexer.start.run text.toList = some ⟨.outside, later, []⟩ := reading []
  rw [ran, Option.bind_some, Lexer.finish, if_pos ⟨rfl, rfl⟩, read]
  rfl

end Spells

end Predicate

namespace Ident

open Placeholder Predicate

/-- A quote inside a quoted name is written twice, so that the name goes on inside quotes. -/
theorem run_quoteChars (chars : List Char) (frame : Frame) (outer : List Frame) :
    Lexer.run ⟨.inside '"', frame, outer⟩ (chars.flatMap quoteChar) =
      some ⟨.inside '"', frame.grow (chars.flatMap quoteChar), outer⟩ := by
  induction chars generalizing frame with
  | nil => rw [List.flatMap_nil, Lexer.run_nil, Frame.grow_nil]
  | cons char rest ih =>
      have one : Lexer.run ⟨.inside '"', frame, outer⟩ (quoteChar char) =
          some ⟨.inside '"', frame.grow (quoteChar char), outer⟩ := by
        by_cases quote : char = '"'
        · subst quote
          have closing : (QuoteState.inside '"').next '"' = .outside := by decide
          rw [quoteChar, if_pos rfl, Lexer.run_cons, Lexer.step_inside, Option.bind_some, closing,
            Lexer.run_cons, Lexer.step_quote (.inr rfl), Option.bind_some, Lexer.run_nil,
            Frame.grow_grow, List.singleton_append]
        · have within : (QuoteState.inside '"').next char = .inside '"' := by
            rw [QuoteState.next, if_neg quote]
          rw [quoteChar, if_neg quote, Lexer.run_cons, Lexer.step_inside, Option.bind_some, within,
            Lexer.run_nil]
      rw [List.flatMap_cons, Lexer.run_append, one, Option.bind_some, ih, Frame.grow_grow]

theorem extends_quoted (chars : List Char) : Extends (String.ofList (quoted chars)) := by
  intro frame outer
  have closing : (QuoteState.inside '"').next '"' = .outside := by decide
  rw [String.toList_ofList, quoted, List.cons_append, Lexer.run_cons,
    Lexer.step_quote (.inr rfl), Option.bind_some, Lexer.run_append, run_quoteChars,
    Option.bind_some, Lexer.run_cons, Lexer.step_inside, Option.bind_some, closing, Lexer.run_nil,
    Frame.grow_grow, Frame.grow_grow, List.singleton_append]

theorem isWordChar_of_isPlainChar {char : Char} (plain : isPlainChar char = true) :
    IsWordChar char := by
  refine ⟨fun member => ?_, ?_⟩
  · simp only [List.mem_cons, List.not_mem_nil, or_false] at member
    rcases member with rfl | rfl | rfl | rfl | rfl | rfl | rfl <;> exact absurd plain (by decide)
  · rw [← Bool.not_eq_true]
    intro blank
    unfold Char.isWhitespace at blank
    simp only [Bool.or_eq_true, decide_eq_true_eq] at blank
    rcases blank with ((rfl | rfl) | rfl) | rfl <;> exact absurd plain (by decide)

theorem extends_toSql (ident : Ident) : Extends ident.toSql := by
  unfold toSql
  split
  case isFalse => exact extends_quoted ident.name.toList
  case isTrue plain =>
      exact .of_isPlainWord fun char member =>
        isWordChar_of_isPlainChar (isPlainChar_of_isPlain plain char member)

theorem extends_qualified (qualifier name : Ident) : Extends (qualified qualifier name) :=
  ((extends_toSql qualifier).append (.of_isPlainWord (by decide))).append (extends_toSql name)

end Ident

end EntityQuery

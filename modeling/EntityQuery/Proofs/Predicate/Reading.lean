import EntityQuery.Proofs.Predicate.Reader
import EntityQuery.Proofs.Predicate.Spelling

/-!
# Texts that say one predicate

Parts that say one predicate can stand next to AND and OR, and after any number of NOTs, without
change: the test that they end in is still being read, and ending it gives that predicate.  Every
kind of test does so, NOT before such parts does, and parentheses around any predicate do.
-/

namespace EntityQuery.Predicate

variable {text first second : String} {parts more : List Part} {tree : Predicate}

/-- The text is made of these parts. -/
def Consists (text : String) (parts : List Part) : Prop :=
  ∃ tokens : List Token, Spells text tokens ∧ Token.parts? tokens = some parts

theorem Token.parts?_append {tokens others : List Token}
    (first : Token.parts? tokens = some parts) (second : Token.parts? others = some more) :
    Token.parts? (tokens ++ others) = some (parts ++ more) := by
  induction tokens generalizing parts with
  | nil =>
      obtain rfl := Option.some.inj first
      exact second
  | cons token rest ih =>
      unfold Token.parts? at first
      rw [List.cons_append, Token.parts?]
      split at first
      next part others tokenPart restParts =>
        rw [tokenPart, ih restParts, ← Option.some.inj first]
        rfl
      next => exact nomatch first

namespace Consists

theorem empty : Consists "" [] := ⟨[], .empty, rfl⟩

theorem append (one : Consists first parts) (two : Consists second more) :
    Consists (first ++ " " ++ second) (parts ++ more) := by
  obtain ⟨tokens, spelled, known⟩ := one
  obtain ⟨others, othersSpelled, othersKnown⟩ := two
  exact ⟨_, spelled.append othersSpelled, Token.parts?_append known othersKnown⟩

theorem word (extended : Extends text) (shown : text ≠ "") : Consists text [.word text] :=
  ⟨_, extended.spells shown, rfl⟩

theorem words (words : List String) (plain : ∀ word ∈ words, IsPlainWord word ∧ word ≠ "") :
    Consists (" ".intercalate words) (words.map .word) := by
  induction words with
  | nil => exact .empty
  | cons first rest ih =>
      obtain ⟨firstPlain, shown⟩ := plain first List.mem_cons_self
      have one : Consists first [.word first] := .word (.of_isPlainWord firstPlain) shown
      cases rest with
      | nil =>
          rw [String.intercalate_singleton]
          exact one
      | cons second others =>
          rw [String.intercalate_cons_cons]
          exact one.append (ih fun word member => plain word (List.mem_cons_of_mem _ member))

theorem around (one : Consists first parts) (word : String) (two : Consists second more)
    (plain : IsPlainWord word) (shown : word ≠ "") :
    Consists (first ++ (" " ++ word ++ " ") ++ second) (parts ++ .word word :: more) := by
  have both := (one.append (.word (.of_isPlainWord plain) shown)).append two
  simpa only [String.append_assoc, List.append_assoc, List.singleton_append] using both

theorem parenthesized (consists : Consists text parts) :
    Consists ("(" ++ text ++ ")") [.enclosed ("(" ++ text ++ ")") (ofParts? parts)] := by
  obtain ⟨tokens, spelled, known⟩ := consists
  refine ⟨_, spelled.parenthesized, ?_⟩
  rw [Token.parts?, Token.part?, known]
  rfl

theorem read (consists : Consists text parts) : read text = ofParts? parts := by
  obtain ⟨tokens, spelled, known⟩ := consists
  rw [Predicate.read, spelled.ofText?, Option.bind_some, known, Option.bind_some]

end Consists

theorem Closed.consists (closed : Closed text) : ∃ inside : Option Predicate,
    Consists ("(" ++ text ++ ")") [.enclosed ("(" ++ text ++ ")") inside] := by
  obtain ⟨tokens, spelled⟩ := closed.spells
  exact ⟨_, _, spelled, rfl⟩

/-- The text is one atom that is no keyword. -/
def IsSingleAtom (text : String) : Prop :=
  ∃ part : Part, Consists text [part] ∧ part.text = text ∧ part.keyword? = none

theorem Closed.isSingleAtom (closed : Closed text) : IsSingleAtom ("(" ++ text ++ ")") := by
  obtain ⟨inside, consists⟩ := closed.consists
  exact ⟨_, consists, rfl, rfl⟩

theorem isSingleAtom_of_extends (extended : Extends text) (shown : text ≠ "")
    (free : Keyword.ofWord? text = none) : IsSingleAtom text :=
  ⟨_, .word extended shown, rfl, free⟩

/-- Where a test is expected, the parts say one predicate. -/
def Reads (parts : List Part) (tree : Predicate) : Prop :=
  ∀ level : Level, level.atoms = [] → level.inRange = false → ∃ later : Level,
    level.run parts = some later ∧ later.endTest? =
      some ⟨level.alternatives, level.conjuncts ++ [negated level.negations tree], 0, [], false⟩

namespace Level

@[simp]
theorem run_nil (level : Level) : level.run [] = some level := rfl

theorem run_cons (level : Level) (part : Part) (rest : List Part) :
    level.run (part :: rest) = (level.step part).bind fun next => next.run rest :=
  List.foldlM_cons

theorem run_append (level : Level) (parts more : List Part) :
    level.run (parts ++ more) = (level.run parts).bind fun next => next.run more :=
  List.foldlM_append

theorem step_atom {level : Level} {part : Part} (free : part.keyword? = none) :
    level.step part = some (level.addAtom part) := by
  rw [step, free]

end Level

namespace Reads

/-- Atoms that are gathered one by one say the test that they make up. -/
theorem of_gathered (gathered : ∀ level : Level, level.atoms = [] → level.inRange = false →
      level.run parts = some { level with atoms := parts })
    (made : ofAtoms? parts = some tree) : Reads parts tree := by
  intro level fresh closed
  refine ⟨_, gathered level fresh closed, ?_⟩
  rw [Level.endTest?, closed, made]
  rfl

theorem enclosed (text : String) (tree : Predicate) : Reads [.enclosed text (some tree)] tree := by
  refine of_gathered (fun level fresh _ => ?_) rfl
  rw [Level.run_cons, Level.step_atom rfl, Option.bind_some, Level.run_nil, Level.addAtom, fresh]
  rfl

theorem not (reads : Reads parts tree) : Reads (.word "NOT" :: parts) (.not tree) := by
  intro level fresh closed
  have stepped : level.step (.word "NOT") =
      some { level with negations := level.negations + 1 } := by
    have keyword : (Part.word "NOT").keyword? = some .not := by decide
    rw [Level.step, keyword]
    dsimp only
    rw [fresh]
    rfl
  obtain ⟨later, ran, ended⟩ := reads { level with negations := level.negations + 1 } fresh closed
  refine ⟨later, ?_, ended⟩
  rw [Level.run_cons, stepped, Option.bind_some, ran]

/-- Atoms none of which is a keyword say the test that they make up. -/
theorem of_free (free : ∀ part ∈ parts, part.keyword? = none) (made : ofAtoms? parts = some tree) :
    Reads parts tree := by
  refine of_gathered (fun level fresh _ => ?_) made
  have gathered (level : Level) :
      level.run parts = some { level with atoms := level.atoms ++ parts } := by
    clear made
    induction parts generalizing level with
    | nil => rw [Level.run_nil, List.append_nil]
    | cons part rest ih =>
        rw [Level.run_cons, Level.step_atom (free part List.mem_cons_self), Option.bind_some,
          ih (fun other member => free other (List.mem_cons_of_mem _ member)), Level.addAtom]
        rw [List.append_assoc, List.singleton_append]
  rw [gathered, fresh, List.nil_append]

end Reads

theorem ofAtoms?_of_two (one two : Part) (rest : List Part) :
    ofAtoms? (one :: two :: rest) =
      some (.test (.ofAtoms ((one :: two :: rest).map Part.text))) := by
  simp [ofAtoms?]

section Tests

variable {target operand : Part}

theorem reads_isNull (free : target.keyword? = none) :
    Reads [target, .word "IS", .word "NULL"] (.test (.nullTest false target.text)) := by
  refine .of_free ?_ ?_
  · simp only [List.forall_mem_cons]
    exact ⟨free, by decide, by decide, nofun⟩
  · rw [ofAtoms?_of_two]
    simp [Part.text, Test.ofAtoms]

theorem reads_isNotNull (free : target.keyword? = none) :
    Reads [target, .word "IS", .word "NOT", .word "NULL"]
      (.test (.nullTest true target.text)) := by
  have isFree : (Part.word "IS").keyword? = none := by decide
  have nullFree : (Part.word "NULL").keyword? = none := by decide
  have keyword : (Part.word "NOT").keyword? = some .not := by decide
  refine .of_gathered (fun level fresh _ => ?_) ?_
  · rw [Level.run_cons, Level.step_atom free, Option.bind_some, Level.run_cons,
      Level.step_atom isFree, Option.bind_some, Level.run_cons, Level.step, keyword]
    simp only [Level.addAtom, fresh, List.nil_append, List.cons_append, List.isEmpty_cons,
      Bool.false_eq_true, if_false, Option.bind_some]
    rw [Level.run_cons, Level.step_atom nullFree]
    rfl
  · rw [ofAtoms?_of_two]
    simp [Part.text, Test.ofAtoms]

theorem reads_compare (comparison : Comparison) (free : target.keyword? = none)
    (operandFree : operand.keyword? = none) :
    Reads [target, .word (Operator.compare comparison).keyword, operand]
      (.test (.compare comparison target.text operand.text)) := by
  refine .of_free ?_ ?_
  · simp only [List.forall_mem_cons]
    exact ⟨free, by cases comparison <;> decide, operandFree, nofun⟩
  · rw [ofAtoms?_of_two]
    cases comparison <;> simp [Part.text, Test.ofAtoms, Operator.keyword, Test.comparisonOf?]

theorem reads_isIn (free : target.keyword? = none) (operandFree : operand.keyword? = none) :
    Reads [target, .word "IN", operand] (.test (.isIn target.text operand.text)) := by
  refine .of_free ?_ ?_
  · simp only [List.forall_mem_cons]
    exact ⟨free, by decide, operandFree, nofun⟩
  · rw [ofAtoms?_of_two]
    simp [Part.text, Test.ofAtoms]

theorem reads_quantified (quantifier : Quantifier) (free : target.keyword? = none)
    (operandFree : operand.keyword? = none) :
    Reads [target, .word "=", .word (Operator.quantified quantifier).keyword, operand]
      (.test (.quantified quantifier target.text operand.text)) := by
  refine .of_free ?_ ?_
  · simp only [List.forall_mem_cons]
    exact ⟨free, by decide, by cases quantifier <;> decide, operandFree, nofun⟩
  · rw [ofAtoms?_of_two]
    cases quantifier <;> simp [Part.text, Test.ofAtoms, Operator.keyword, Test.quantifierOf?]

theorem reads_exists (operandFree : operand.keyword? = none) :
    Reads [.word "EXISTS", operand] (.test (.exists operand.text)) := by
  refine .of_free ?_ ?_
  · simp only [List.forall_mem_cons]
    exact ⟨by decide, operandFree, nofun⟩
  · rw [ofAtoms?_of_two]
    simp [Part.text, Test.ofAtoms]

/-- The AND of a range belongs to it. -/
theorem reads_between {low high : Part} (free : target.keyword? = none)
    (lowFree : low.keyword? = none) (highFree : high.keyword? = none) :
    Reads [target, .word "BETWEEN", low, .word "AND", high]
      (.test (.between target.text low.text high.text)) := by
  have opens : (Part.word "BETWEEN").keyword? = some .between := by decide
  have closes : (Part.word "AND").keyword? = some .and := by decide
  refine .of_gathered (fun level fresh closed => ?_) ?_
  · rw [Level.run_cons, Level.step_atom free, Option.bind_some, Level.run_cons, Level.step, opens]
    simp only [Level.addAtom, fresh, closed, List.nil_append, List.cons_append, List.isEmpty_cons,
      Bool.or_false, Bool.false_eq_true, if_false, Option.bind_some]
    rw [Level.run_cons, Level.step_atom lowFree, Option.bind_some, Level.run_cons, Level.step,
      closes]
    simp only [Level.addAtom, List.cons_append, List.nil_append, if_true, Option.bind_some]
    rw [Level.run_cons, Level.step_atom highFree]
    simp only [Level.addAtom, List.cons_append, List.nil_append, Option.bind_some, Level.run_nil,
      ← closed]
  · rw [ofAtoms?_of_two]
    simp [Part.text, Test.ofAtoms]

end Tests

end EntityQuery.Predicate

import EntityQuery.Operator
import EntityQuery.Proofs.Predicate.Token

/-!
# Reading predicates

The tokens of a condition are read with the precedence of SQL: a test binds tighter than NOT, NOT
tighter than AND, and AND tighter than OR.  BETWEEN takes the first AND after it.  A test is a run
of atoms, each a word or a part in parentheses; a part in parentheses that stands where a test is
expected, and alone, is a predicate of its own.
-/

namespace EntityQuery

/-- A test that is not made of other predicates, with its operands as they are written. -/
inductive Test
  | nullTest (negated : Bool) (target : String)
  | compare (comparison : Comparison) (target operand : String)
  | between (target low high : String)
  | isIn (target choices : String)
  | quantified (quantifier : Quantifier) (target operand : String)
  | exists (operand : String)
  /-- Any other atoms in a row. -/
  | other (atoms : List String)

/-- The structure of a condition. -/
inductive Predicate
  | test (test : Test)
  | not (operand : Predicate)
  /-- Two or more predicates combined. -/
  | junction (connective : Junction) (operands : List Predicate)

namespace Test

def comparisonOf? : String → Option Comparison
  | "=" => some .equalTo
  | "<>" => some .notEqualTo
  | ">" => some .greaterThan
  | ">=" => some .greaterThanOrEqualTo
  | "<" => some .lessThan
  | "<=" => some .lessThanOrEqualTo
  | "LIKE" => some .like
  | _ => none

def quantifierOf? : String → Option Quantifier
  | "ANY" => some .any
  | "SOME" => some .some
  | "ALL" => some .all
  | _ => none

/-- The test that atoms in a row make up. -/
def ofAtoms (atoms : List String) : Test :=
  match atoms with
  | ["EXISTS", operand] => .exists operand
  | [target, "IS", "NULL"] => .nullTest false target
  | [target, "IS", "NOT", "NULL"] => .nullTest true target
  | [target, "IN", choices] => .isIn target choices
  | [target, "BETWEEN", low, "AND", high] => .between target low high
  | [target, keyword, operand] =>
      match comparisonOf? keyword with
      | some comparison => .compare comparison target operand
      | none => .other atoms
  | [target, "=", keyword, operand] =>
      match quantifierOf? keyword with
      | some quantifier => .quantified quantifier target operand
      | none => .other atoms
  | _ => .other atoms

end Test

namespace Predicate

/-- Words that structure a condition. -/
inductive Keyword
  | and
  | or
  | not
  | between
  deriving DecidableEq

namespace Keyword

def spelling : Keyword → String
  | .and => "AND"
  | .or => "OR"
  | .not => "NOT"
  | .between => "BETWEEN"

/-- The keyword that a word is, in capitals or not. -/
def ofWord? (word : String) : Option Keyword :=
  [and, or, not, between].find? fun keyword =>
    keyword.spelling.toList == word.toList.map Char.toUpper

end Keyword

/-- A token inside a condition. -/
inductive Part
  | word (text : String)
  /-- A part in parentheses, and what it says if it is a predicate. -/
  | enclosed (text : String) (inside : Option Predicate)

namespace Part

def text : Part → String
  | .word text | .enclosed text _ => text

def keyword? : Part → Option Keyword
  | .word text => Keyword.ofWord? text
  | .enclosed _ _ => none

end Part

/-- What has been read of a condition. -/
structure Level where
  /-- What stood before the last OR. -/
  alternatives : List Predicate
  /-- What stood before the last AND after it. -/
  conjuncts : List Predicate
  /-- The NOTs before the test that is being read. -/
  negations : Nat
  /-- The atoms of the test that is being read. -/
  atoms : List Part
  /-- Whether BETWEEN still waits for its AND. -/
  inRange : Bool

/-- A predicate after so many NOTs. -/
def negated : Nat → Predicate → Predicate
  | 0, predicate => predicate
  | negations + 1, predicate => negated negations (.not predicate)

/-- Predicates combined; one alone stands for itself. -/
def combined? (connective : Junction) : List Predicate → Option Predicate
  | [] => none
  | [predicate] => some predicate
  | predicates => some (.junction connective predicates)

/-- The predicate that atoms make up. -/
def ofAtoms? : List Part → Option Predicate
  | [] => none
  | [.enclosed _ inside] => inside
  | atoms => some (.test (.ofAtoms (atoms.map Part.text)))

namespace Level

def start : Level := ⟨[], [], 0, [], false⟩

/-- The test that is being read ends here. -/
def endTest? (level : Level) : Option Level :=
  if level.inRange then none
  else (ofAtoms? level.atoms).map fun predicate =>
    ⟨level.alternatives, level.conjuncts ++ [negated level.negations predicate], 0, [], false⟩

/-- The conjunction that is being read ends here. -/
def endConjunction? (level : Level) : Option Level :=
  (combined? .and level.conjuncts).map fun predicate =>
    { level with alternatives := level.alternatives ++ [predicate], conjuncts := [] }

def addAtom (level : Level) (part : Part) : Level := { level with atoms := level.atoms ++ [part] }

def step (level : Level) (part : Part) : Option Level :=
  match part.keyword? with
  | some .and =>
      if level.inRange then some { level.addAtom part with inRange := false } else level.endTest?
  | some .or => level.endTest?.bind endConjunction?
  | some .not =>
      if level.atoms.isEmpty then some { level with negations := level.negations + 1 }
      else some (level.addAtom part)
  | some .between =>
      if level.atoms.isEmpty || level.inRange then none
      else some { level.addAtom part with inRange := true }
  | none => some (level.addAtom part)

def run (level : Level) (parts : List Part) : Option Level := parts.foldlM step level

def finish (level : Level) : Option Predicate :=
  (level.endTest?.bind endConjunction?).bind fun last => combined? .or last.alternatives

end Level

/-- The predicate that the tokens of a condition say. -/
def ofParts? (parts : List Part) : Option Predicate := (Level.start.run parts).bind Level.finish

mutual

def Token.part? : Token → Option Part
  | .word text => some (.word text)
  | .comma => none
  | .enclosed text tokens => some (.enclosed text ((Token.parts? tokens).bind ofParts?))

def Token.parts? : List Token → Option (List Part)
  | [] => some []
  | token :: rest =>
      match Token.part? token, Token.parts? rest with
      | some part, some parts => some (part :: parts)
      | _, _ => none

end

/-- What a text says when it is read as a condition. -/
def read (text : String) : Option Predicate :=
  ((Token.ofText? text).bind Token.parts?).bind ofParts?

end Predicate

end EntityQuery

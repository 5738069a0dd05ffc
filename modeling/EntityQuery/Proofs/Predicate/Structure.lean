import EntityQuery.Proofs.Predicate.Closed
import EntityQuery.Proofs.Predicate.Combining
import EntityQuery.Proofs.Statement.Alignment

/-!
# Conditions read back

Parentheses are written around two or more items that are combined and nowhere else.  This is
enough: read with the precedence of SQL, the text of a condition gives the condition back, with AND
and OR conditions as groups, without empty groups, and with the item itself for a group of one.
-/

namespace EntityQuery

open Outcome Predicate

/-- The target is a column. -/
def Target.IsColumn : Target → Prop
  | .name _ | .field _ => True
  | .raw _ => False

namespace Expr

/-- The operand is a literal, a column, a list or a nested query. -/
def IsOperand : Expr → Prop
  | .value _ | .list _ | .field _ | .column _ | .subquery _ | .unbound => True
  | .raw _ | .condition _ | .group _ _ => False

def IsRaw : Expr → Prop
  | .raw _ => True
  | _ => False

end Expr

mutual

/-- Whether nothing is written for the expression. -/
def Expr.isVacant : Expr → Bool
  | .group _ items => Expr.areVacant items
  | .condition condition => condition.isVacant
  | _ => false

def Expr.areVacant : List Expr → Bool
  | [] => true
  | item :: rest => item.isVacant && Expr.areVacant rest

def Condition.isVacant : Condition → Bool
  | .junction _ (.list items) => Expr.areVacant items
  | .junction _ operand => operand.isVacant
  | _ => false

end

mutual

/-- The expression is put together from tests by NOT, AND, OR and groups.  Nothing of it is raw, a
range has at least two bounds, and NOT does not stand before nothing. -/
def Expr.IsPredicate : Expr → Prop
  | .condition condition => condition.IsPredicate
  | .group _ items => Expr.ArePredicates items
  | _ => False

def Expr.ArePredicates : List Expr → Prop
  | [] => True
  | item :: rest => item.IsPredicate ∧ Expr.ArePredicates rest

def Condition.IsPredicate : Condition → Prop
  | .nullTest _ target => target.IsColumn
  | .compare _ target operand => target.IsColumn ∧ operand.IsOperand
  | .between target (.list (low :: high :: _)) =>
      target.IsColumn ∧ low.IsOperand ∧ high.IsOperand
  | .between target (.value (.array (_ :: _ :: _))) => target.IsColumn
  | .between _ _ => False
  | .isIn target choices => target.IsColumn ∧ ¬choices.IsRaw
  | .not operand => operand.IsPredicate ∧ operand.isVacant = false
  | .exists (.subquery _) => True
  | .exists _ => False
  | .quantified _ (some target) operand => target.IsColumn ∧ ¬operand.IsRaw
  | .quantified _ none _ => False
  | .junction _ (.list items) => Expr.ArePredicates items
  | .junction _ operand => operand.IsPredicate

end

/-- The choices of a membership test in parentheses. -/
def Expr.choiceSet (scope : Scope) : Expr → Except Error Fragment
  | .list items => return operandSet (← Expr.formatAll scope items)
  | .value (.array items) => return operandSet (items.map .bound)
  | choices => return choices.enclose (← choices.format scope)

/-- The test of a condition, over the texts of its operands. -/
def Condition.test (scope : Scope) : Condition → Except Error Test
  | .nullTest negated target => return .nullTest negated (← target.format scope).text
  | .compare comparison target operand =>
      return .compare comparison (← target.format scope).text (← operand.format scope).text
  | .between target (.list (low :: high :: _)) =>
      return .between (← target.format scope).text (← low.format scope).text
        (← high.format scope).text
  | .between target (.value (.array (low :: high :: _))) =>
      return .between (← target.format scope).text (Fragment.bound low).text
        (Fragment.bound high).text
  | .isIn target choices =>
      return .isIn (← target.format scope).text (← choices.choiceSet scope).text
  | .exists operand => return .exists (← operand.format scope).text
  | .quantified quantifier (some target) operand =>
      return .quantified quantifier (← target.format scope).text
        (operand.enclose (← operand.format scope)).text
  | condition => return .other [(← condition.format scope).text]

mutual

/-- The structure of an expression in a scope: AND and OR conditions are groups, what says nothing
is left out, and one item stands for itself. -/
def Expr.predicate? (scope : Scope) : Expr → Except Error (Option Predicate)
  | .condition condition => condition.predicate? scope
  | .group connective items => return combined? connective (← Expr.predicates scope items)
  | _ => return none

def Expr.predicates (scope : Scope) : List Expr → Except Error (List Predicate)
  | [] => return []
  | item :: rest => return (← item.predicate? scope).toList ++ (← Expr.predicates scope rest)

def Condition.predicate? (scope : Scope) : Condition → Except Error (Option Predicate)
  | .not operand => return (← operand.predicate? scope).map .not
  | .junction connective (.list items) =>
      return combined? connective (← Expr.predicates scope items)
  | .junction connective operand =>
      return combined? connective (← operand.predicate? scope).toList
  | condition => return some (.test (← condition.test scope))

end

namespace Predicate

theorem Keyword.ofWord?_of_dot {word : String} (dotted : '.' ∈ word.toList) :
    Keyword.ofWord? word = none := by
  have upper : '.' ∈ word.toList.map Char.toUpper := List.mem_map.2 ⟨'.', dotted, rfl⟩
  unfold Keyword.ofWord?
  rw [List.find?_eq_none]
  intro keyword _ same
  rw [← beq_iff_eq.1 same] at upper
  cases keyword <;> exact absurd upper (by decide)

theorem isSingleAtom_qualified (qualifier column : Ident) :
    IsSingleAtom (Ident.qualified qualifier column) := by
  have dotted : '.' ∈ (Ident.qualified qualifier column).toList := by
    simp [Ident.qualified, String.toList_append]
  refine isSingleAtom_of_extends (Ident.extends_qualified qualifier column) ?_
    (Keyword.ofWord?_of_dot dotted)
  intro nothing
  rw [nothing] at dotted
  exact absurd dotted (by decide)

theorem isSingleAtom_placeholder : IsSingleAtom "?" :=
  isSingleAtom_of_extends (.of_isPlainWord (by decide)) (by decide) (by decide)

theorem isSingleAtom_parenthesized {fragment : Fragment} (closed : fragment.IsClosed) :
    IsSingleAtom fragment.parenthesized.text := Closed.isSingleAtom closed

theorem IsSingleAtom.ne_empty {text : String} (atom : IsSingleAtom text) : text ≠ "" := by
  rintro rfl
  obtain ⟨part, consists, -, -⟩ := atom
  exact nomatch consists.eq_nil

section Tests

variable {target operand low high : Fragment}

theorem tells_nullTest (negated : Bool) (one : IsSingleAtom target.text) :
    Tells (target ++ .ofText (" " ++ (Operator.nullTest negated).keyword)).text
      (.test (.nullTest negated target.text)) := by
  obtain ⟨part, consists, same, free⟩ := one
  have word (text : String) (plain : IsPlainWord text) (shown : text ≠ "") :
      Consists text [.word text] := .word (.of_isPlainWord plain) shown
  rw [← same]
  cases negated with
  | false =>
      have keyword : Consists ("IS" ++ " " ++ "NULL") [.word "IS", .word "NULL"] :=
        (word "IS" (by decide) (by decide)).append (word "NULL" (by decide) (by decide))
      refine ⟨_, ?_, reads_isNull free⟩
      have whole := consists.append keyword
      rw [String.append_assoc] at whole
      exact whole
  | true =>
      have keyword : Consists ("IS" ++ " " ++ "NOT" ++ " " ++ "NULL")
          [.word "IS", .word "NOT", .word "NULL"] :=
        ((word "IS" (by decide) (by decide)).append (word "NOT" (by decide) (by decide))).append
          (word "NULL" (by decide) (by decide))
      refine ⟨_, ?_, reads_isNotNull free⟩
      have whole := consists.append keyword
      rw [String.append_assoc] at whole
      exact whole

theorem tells_compare (comparison : Comparison) (one : IsSingleAtom target.text)
    (two : IsSingleAtom operand.text) :
    Tells (target ++ infixKeyword (.compare comparison) ++ operand).text
      (.test (.compare comparison target.text operand.text)) := by
  obtain ⟨part, consists, same, free⟩ := one
  obtain ⟨other, otherConsists, otherSame, otherFree⟩ := two
  have reads := reads_compare comparison free otherFree
  rw [same, otherSame] at reads
  exact ⟨_, consists.around _ otherConsists (by cases comparison <;> decide)
    (by cases comparison <;> decide), reads⟩

theorem tells_between (one : IsSingleAtom target.text) (two : IsSingleAtom low.text)
    (three : IsSingleAtom high.text) :
    Tells (target ++ infixKeyword .between ++ rangeBounds [low, high]).text
      (.test (.between target.text low.text high.text)) := by
  obtain ⟨part, consists, same, free⟩ := one
  obtain ⟨lower, lowConsists, lowSame, lowFree⟩ := two
  obtain ⟨upper, highConsists, highSame, highFree⟩ := three
  have reads := reads_between free lowFree highFree
  rw [same, lowSame, highSame] at reads
  have bounds := lowConsists.around "AND" highConsists (by decide) (by decide)
  exact ⟨_, consists.around "BETWEEN" bounds (by decide) (by decide), reads⟩

theorem tells_isIn (one : IsSingleAtom target.text) (two : IsSingleAtom operand.text) :
    Tells (target ++ infixKeyword .isIn ++ operand).text
      (.test (.isIn target.text operand.text)) := by
  obtain ⟨part, consists, same, free⟩ := one
  obtain ⟨other, otherConsists, otherSame, otherFree⟩ := two
  have reads := reads_isIn free otherFree
  rw [same, otherSame] at reads
  exact ⟨_, consists.around "IN" otherConsists (by decide) (by decide), reads⟩

theorem tells_exists (one : IsSingleAtom operand.text) :
    Tells (leadingKeyword .exists ++ operand).text (.test (.exists operand.text)) := by
  obtain ⟨part, consists, same, free⟩ := one
  have reads := reads_exists free
  rw [same] at reads
  have keyword : Consists "EXISTS" [.word "EXISTS"] :=
    .word (.of_isPlainWord (by decide)) (by decide)
  exact ⟨_, keyword.append consists, reads⟩

theorem tells_quantified (quantifier : Quantifier) (one : IsSingleAtom target.text)
    (two : IsSingleAtom operand.text) :
    Tells (target ++ .ofText " = " ++ leadingKeyword (.quantified quantifier) ++ operand).text
      (.test (.quantified quantifier target.text operand.text)) := by
  obtain ⟨part, consists, same, free⟩ := one
  obtain ⟨other, otherConsists, otherSame, otherFree⟩ := two
  have reads := reads_quantified quantifier free otherFree
  rw [same, otherSame] at reads
  have keyword : Consists (Operator.quantified quantifier).keyword
      [.word (Operator.quantified quantifier).keyword] :=
    .word (.of_isPlainWord (by cases quantifier <;> decide)) (by cases quantifier <;> decide)
  have whole := consists.around "=" (keyword.append otherConsists) (by decide) (by decide)
  refine ⟨_, ?_, reads⟩
  rw [← String.append_assoc] at whole
  exact whole

theorem tells_not {tree : Predicate} (tells : Tells operand.text tree) :
    Tells (leadingKeyword .not ++ operand).text (.not tree) := by
  obtain ⟨parts, consists, reads⟩ := tells
  have keyword : Consists "NOT" [.word "NOT"] := .word (.of_isPlainWord (by decide)) (by decide)
  exact ⟨_, keyword.append consists, reads.not⟩

end Tests

/-- The text tells the predicate, or is left out if there is none. -/
def Tells? (text : String) : Option Predicate → Prop
  | none => text = ""
  | some tree => Tells text tree

end Predicate

theorem Target.exists_qualified {scope : Scope} {target : Target} {fragment : Fragment}
    (column : target.IsColumn) (formatted : target.format scope = .ok fragment) :
    ∃ qualifier name : Ident, fragment = .ofText (Ident.qualified qualifier name) := by
  cases target with
  | name name =>
      obtain ⟨text, resolved, whole⟩ := bind_eq_ok.1 formatted
      obtain ⟨qualifier, column, rfl⟩ := Scope.qualified_of_column resolved
      exact ⟨qualifier, column, (pure_eq_ok.1 whole).symm⟩
  | field reference =>
      obtain ⟨text, resolved, whole⟩ := bind_eq_ok.1 formatted
      obtain ⟨qualifier, column, rfl⟩ := Scope.qualified_of_fieldColumn resolved
      exact ⟨qualifier, column, (pure_eq_ok.1 whole).symm⟩
  | raw fragment => exact column.elim

/-- A column is one atom. -/
theorem Target.isSingleAtom_format (scope : Scope) (target : Target) (column : target.IsColumn) :
    Yields (fun fragment => IsSingleAtom fragment.text) (target.format scope) := by
  intro fragment formatted
  obtain ⟨qualifier, name, rfl⟩ := exists_qualified column formatted
  exact isSingleAtom_qualified qualifier name

namespace Expr

theorem isSingleAtom_format (scope : Scope) {operand : Expr} (atomic : operand.IsOperand)
    (closed : operand.IsClosed) :
    Yields (fun fragment => IsSingleAtom fragment.text) (operand.format scope) := by
  cases operand with
  | value value => exact .ok isSingleAtom_placeholder
  | list items =>
      simp only [format]
      refine (closed_formatAll scope items closed).bind fun parts partsClosed => .ok ?_
      unfold rowOperand
      split
      · exact isSingleAtom_placeholder
      · exact isSingleAtom_parenthesized (.joined (by decide) partsClosed)
  | field reference => exact Target.isSingleAtom_format scope (.field reference) trivial
  | column name => exact Target.isSingleAtom_format scope (.name name) trivial
  | subquery plan =>
      simp only [format]
      exact (Plan.closed_select plan closed).bind fun _ selected =>
        .ok (isSingleAtom_parenthesized selected)
  | unbound => exact .ok isSingleAtom_placeholder
  | raw _ => exact atomic.elim
  | condition _ => exact atomic.elim
  | group _ _ => exact atomic.elim

/-- An operand that brings its own parentheses, or is put into them, is one atom. -/
theorem isSingleAtom_enclose (scope : Scope) {operand : Expr} (notRaw : ¬operand.IsRaw)
    (closed : operand.IsClosed) :
    Yields (fun fragment => IsSingleAtom (operand.enclose fragment).text)
      (operand.format scope) := by
  have enclosed (one : operand.isEnclosed = false) :
      Yields (fun fragment => IsSingleAtom (operand.enclose fragment).text)
        (operand.format scope) := by
    intro fragment formatted
    rw [enclose, one]
    exact isSingleAtom_parenthesized (closed_format scope operand closed fragment formatted)
  cases operand with
  | subquery plan => exact isSingleAtom_format scope trivial closed
  | raw _ => exact absurd trivial notRaw
  | _ => exact enclosed rfl

theorem isSingleAtom_choiceSet (scope : Scope) {choices : Expr} (notRaw : ¬choices.IsRaw)
    (closed : choices.IsClosed) :
    Yields (fun fragment => IsSingleAtom fragment.text) (choices.choiceSet scope) := by
  have set {parts : List Fragment} (partsClosed : Fragment.AreClosed parts) :
      IsSingleAtom (operandSet parts).text := by
    unfold operandSet
    split
    · exact isSingleAtom_parenthesized (.bound .null)
    · exact isSingleAtom_parenthesized (.joined (by decide) partsClosed)
  have single : Yields (fun fragment => IsSingleAtom fragment.text) (do
      let shown ← choices.format scope
      return choices.enclose shown) :=
    (isSingleAtom_enclose scope notRaw closed).bind fun _ shown => .ok shown
  cases choices with
  | list items =>
      exact (closed_formatAll scope items closed).bind fun _ partsClosed => .ok (set partsClosed)
  | value held =>
      cases held with
      | array items => exact .ok (set (.map_bound items))
      | _ => exact single
  | _ => exact single

end Expr

theorem Condition.format_isIn (scope : Scope) (target : Target) (choices : Expr) :
    (isIn target choices).format scope = do
      let target ← target.format scope
      let set ← choices.choiceSet scope
      return target ++ infixKeyword .isIn ++ set := by
  have single (one : choices.isOperandSet = false) (given : choices.choiceSet scope = do
      let shown ← choices.format scope
      return choices.enclose shown) :
      (isIn target choices).format scope = do
        let target ← target.format scope
        let set ← choices.choiceSet scope
        return target ++ infixKeyword .isIn ++ set := by
    rw [format_isIn_of_single one, given]
    simp only [bind_assoc, pure_bind]
  cases choices with
  | list items =>
      rw [format_isIn_list, Expr.choiceSet]
      simp only [bind_assoc, pure_bind]
  | value held =>
      cases held with
      | array items => rfl
      | _ => exact single rfl rfl
  | _ => exact single rfl rfl

/-- A fragment that is one atom, twice. -/
theorem matches_atom {formatted : Except Error Fragment}
    (atom : Yields (fun fragment => IsSingleAtom fragment.text) formatted) :
    Matches (fun one two => one = two ∧ IsSingleAtom one.text) formatted formatted :=
  Matches.same fun result succeeded => ⟨rfl, atom result succeeded⟩

theorem combined?_isNone (connective : Junction) (trees : List Predicate) :
    (combined? connective trees).isNone = trees.isEmpty := by
  match trees with
  | [] => rfl
  | [_] => rfl
  | _ :: _ :: _ => rfl

theorem tells?_combine (connective : Junction) {fragments : List Fragment} {trees : List Predicate}
    (tells : List.Forall₂ (fun fragment tree => Tells fragment.text tree)
      (fragments.filter fun fragment => !fragment.isEmpty) trees) :
    Tells? (connective.combine fragments).text (combined? connective trees) := by
  have combined := tells_combine connective tells
  revert combined
  cases combined? connective trees <;> exact id

/-- One fragment, which is kept or left out. -/
theorem forall₂_of_tells? {fragment : Fragment} {reading : Option Predicate}
    (tells : Tells? fragment.text reading) :
    List.Forall₂ (fun fragment tree => Tells fragment.text tree)
      ([fragment].filter fun fragment => !fragment.isEmpty) reading.toList := by
  cases reading with
  | none =>
      have empty : fragment.isEmpty = true := Fragment.isEmpty_iff.2 tells
      rw [List.filter_singleton, empty]
      exact .nil
  | some tree =>
      have kept : fragment.isEmpty = false := by
        rw [Bool.eq_false_iff, ne_eq, Fragment.isEmpty_iff]
        exact Tells.ne_empty tells
      rw [List.filter_singleton, kept]
      exact .cons tells .nil

mutual

theorem Expr.tells_format (scope : Scope) : ∀ expr : Expr, expr.IsPredicate → expr.IsClosed →
    Matches (fun fragment reading => Tells? fragment.text reading ∧
        reading.isNone = expr.isVacant)
      (expr.format scope) (expr.predicate? scope)
  | .condition condition, shaped, closed => Condition.tells_format scope condition shaped closed
  | .group connective items, shaped, closed => by
      simp only [Expr.format, Expr.predicate?]
      refine (Expr.tells_formatAll scope items shaped closed).bind fun fragments trees told => ?_
      exact .ok ⟨tells?_combine connective told.1, (combined?_isNone connective trees).trans told.2⟩

theorem Expr.tells_formatAll (scope : Scope) : ∀ items : List Expr, Expr.ArePredicates items →
    Expr.AreClosed items →
    Matches (fun fragments trees => List.Forall₂ (fun fragment tree => Tells fragment.text tree)
        (fragments.filter fun fragment => !fragment.isEmpty) trees ∧
          trees.isEmpty = Expr.areVacant items)
      (Expr.formatAll scope items) (Expr.predicates scope items)
  | [], _, _ => .ok ⟨.nil, rfl⟩
  | item :: rest, shaped, closed => by
      simp only [Expr.formatAll, Expr.predicates]
      refine (Expr.tells_format scope item shaped.1 closed.1).bind fun first reading told => ?_
      refine (Expr.tells_formatAll scope rest shaped.2 closed.2).bind fun others trees more => ?_
      refine .ok ⟨?_, ?_⟩
      · rw [← List.singleton_append, List.filter_append]
        exact List.rel_append (forall₂_of_tells? told.1) more.1
      · rw [Expr.areVacant, ← told.2, ← more.2]
        cases reading <;> simp

theorem Condition.tells_format (scope : Scope) : ∀ condition : Condition, condition.IsPredicate →
    condition.IsClosed →
    Matches (fun fragment reading => Tells? fragment.text reading ∧
        reading.isNone = condition.isVacant)
      (condition.format scope) (condition.predicate? scope)
  | .nullTest negated target, shaped, closed => by
      simp only [Condition.format, Condition.predicate?, Condition.test, bind_assoc, pure_bind]
      refine (matches_atom (target.isSingleAtom_format scope shaped)).bind ?_
      rintro shown _ ⟨rfl, atom⟩
      exact .ok ⟨tells_nullTest negated atom, rfl⟩
  | .compare comparison target operand, shaped, closed => by
      simp only [Condition.format, Condition.predicate?, Condition.test, bind_assoc, pure_bind]
      refine (matches_atom (target.isSingleAtom_format scope shaped.1)).bind ?_
      rintro shown _ ⟨rfl, atom⟩
      refine (matches_atom (Expr.isSingleAtom_format scope shaped.2 closed.2)).bind ?_
      rintro inner _ ⟨rfl, innerAtom⟩
      exact .ok ⟨tells_compare comparison atom innerAtom, rfl⟩
  | .between target (.list (low :: high :: rest)), shaped, closed => by
      rw [Condition.format_between_two]
      simp only [Condition.predicate?, Condition.test, bind_assoc, pure_bind]
      refine (matches_atom (target.isSingleAtom_format scope shaped.1)).bind ?_
      rintro shown _ ⟨rfl, atom⟩
      refine (matches_atom (Expr.isSingleAtom_format scope shaped.2.1 closed.2.1)).bind ?_
      rintro lower _ ⟨rfl, lowAtom⟩
      refine (matches_atom (Expr.isSingleAtom_format scope shaped.2.2 closed.2.2.1)).bind ?_
      rintro upper _ ⟨rfl, highAtom⟩
      exact .ok ⟨tells_between atom lowAtom highAtom, rfl⟩
  | .between target (.value (.array (low :: high :: rest))), shaped, closed => by
      rw [Condition.format_between_array]
      simp only [Condition.predicate?, Condition.test, bind_assoc, pure_bind]
      refine (matches_atom (target.isSingleAtom_format scope shaped)).bind ?_
      rintro shown _ ⟨rfl, atom⟩
      have told : Tells (shown ++ infixKeyword .between ++
          rangeBounds [.bound low, .bound high]).text _ :=
        tells_between atom isSingleAtom_placeholder isSingleAtom_placeholder
      exact .ok ⟨told, rfl⟩
  | .isIn target choices, shaped, closed => by
      rw [Condition.format_isIn]
      simp only [Condition.predicate?, Condition.test, bind_assoc, pure_bind]
      refine (matches_atom (target.isSingleAtom_format scope shaped.1)).bind ?_
      rintro shown _ ⟨rfl, atom⟩
      refine (matches_atom (Expr.isSingleAtom_choiceSet scope shaped.2 closed.2)).bind ?_
      rintro set _ ⟨rfl, setAtom⟩
      exact .ok ⟨tells_isIn atom setAtom, rfl⟩
  | .not operand, shaped, closed => by
      simp only [Condition.format, Condition.predicate?]
      refine (Expr.tells_format scope operand shaped.1 closed).bind ?_
      rintro inner reading ⟨told, vacant⟩
      -- Before nothing, a NOT would be left alone.
      cases reading with
      | none => exact nomatch vacant.trans shaped.2
      | some tree => exact .ok ⟨tells_not told, rfl⟩
  | .exists (.subquery plan), _, closed => by
      simp only [Condition.format, Condition.predicate?, Condition.test, bind_assoc, pure_bind]
      have atom : Yields (fun fragment => IsSingleAtom fragment.text)
          ((Expr.subquery plan).format scope) := Expr.isSingleAtom_format scope trivial closed
      refine (matches_atom atom).bind ?_
      rintro inner _ ⟨rfl, innerAtom⟩
      exact .ok ⟨tells_exists innerAtom, rfl⟩
  | .quantified quantifier (some target) operand, shaped, closed => by
      rw [Condition.format_quantified]
      simp only [Condition.predicate?, Condition.test, quantifiedTarget, bind_assoc, pure_bind]
      refine (matches_atom (target.isSingleAtom_format scope shaped.1)).bind ?_
      rintro shown _ ⟨rfl, atom⟩
      have nonempty : shown.isEmpty = false := by
        rw [Bool.eq_false_iff, ne_eq, Fragment.isEmpty_iff]
        exact atom.ne_empty
      have enclosed := Expr.isSingleAtom_enclose scope shaped.2 closed.2
      refine (Matches.same fun inner formatted => ⟨rfl, enclosed inner formatted⟩ :
        Matches (fun one two => one = two ∧ IsSingleAtom (operand.enclose one).text) _ _).bind ?_
      rintro inner _ ⟨rfl, innerAtom⟩
      rw [nonempty]
      exact .ok ⟨tells_quantified quantifier atom innerAtom, rfl⟩
  | .junction connective operand, shaped, closed => by
      have single {operand : Expr} (one : operand.isList = false)
          (told : Matches (fun fragment reading => Tells? fragment.text reading ∧
            reading.isNone = operand.isVacant) (operand.format scope) (operand.predicate? scope)) :
          Matches (fun fragment reading => Tells? fragment.text reading ∧
              reading.isNone = operand.isVacant)
            ((Condition.junction connective operand).format scope) (do
              let reading ← operand.predicate? scope
              return combined? connective reading.toList) := by
        rw [Condition.format_junction_of_single one]
        refine told.bind ?_
        rintro fragment reading ⟨tells, vacant⟩
        refine .ok ⟨tells?_combine connective (forall₂_of_tells? tells), ?_⟩
        rw [combined?_isNone, ← vacant]
        cases reading <;> rfl
      cases operand with
      | list items =>
          simp only [Condition.format_junction_list, Condition.predicate?]
          refine (Expr.tells_formatAll scope items shaped closed).bind fun _ trees told => ?_
          exact .ok ⟨tells?_combine connective told.1,
            (combined?_isNone connective trees).trans told.2⟩
      | _ => exact single rfl (Expr.tells_format scope _ shaped closed)

end

namespace Sample

/-- Accounts with their table unnamed. -/
def accounts : Scope := ⟨account, none⟩

/-- Accounts by their number, in one way or another, of those that have a note. -/
def noted : Expr :=
  .group .and
    [.condition (.junction .or (.list
      [.condition (.compare .equalTo (.name "id") (.value (.integer 1))),
        .condition (.not (.condition (.between (.name "id")
          (.list [.value (.integer 2), .value (.integer 3)]))))])),
      .group .or [],
      .group .or [.condition (.nullTest true (.name "note"))]]

end Sample

/-- Read with the precedence of SQL, the text of a condition gives its structure back: each
parenthesis that is needed is there.  Where nothing is to be read, nothing is written. -/
theorem Expr.read_of_format (scope : Scope) {expr : Expr} (shaped : expr.IsPredicate)
    (closed : expr.IsClosed) {fragment : Fragment} (formatted : expr.format scope = .ok fragment) :
    ∃ reading, expr.predicate? scope = .ok reading ∧
      match reading with
      | none => expr.isVacant = true ∧ fragment.text = ""
      | some tree => Predicate.read fragment.text = some tree := by
  obtain ⟨reading, given, tells, vacant⟩ :=
    (Expr.tells_format scope expr shaped closed).exists_of_ok formatted
  refine ⟨reading, given, ?_⟩
  cases reading with
  | none => exact ⟨vacant.symm, tells⟩
  | some tree => exact Tells.read tells

set_option maxRecDepth 10000 in
/-- The empty group is gone, and the group of one is its item. -/
theorem Expr.read_of_noted : ∃ fragment, Sample.noted.format Sample.accounts = .ok fragment ∧
    Predicate.read fragment.text = some (.junction .and
      [.junction .or [.test (.compare .equalTo "account.id" "?"),
          .not (.test (.between "account.id" "?" "?"))],
        .test (.nullTest true "account.\"note?\"")]) := by
  have formatted : Sample.noted.format Sample.accounts = .ok
      ⟨"((account.id = ? OR NOT account.id BETWEEN ? AND ?) AND account.\"note?\" IS NOT NULL)",
        [.integer 1, .integer 2, .integer 3]⟩ := by
    rfl
  have shaped : Sample.noted.IsPredicate :=
    ⟨⟨⟨trivial, trivial⟩, ⟨⟨trivial, trivial, trivial⟩, rfl⟩, trivial⟩, trivial,
      ⟨trivial, trivial⟩, trivial⟩
  have closed : Sample.noted.IsClosed :=
    ⟨⟨⟨trivial, trivial⟩, ⟨trivial, trivial, trivial, trivial⟩, trivial⟩, trivial,
      ⟨trivial, trivial⟩, trivial⟩
  obtain ⟨reading, given, told⟩ := Expr.read_of_format Sample.accounts shaped closed formatted
  have structured : Sample.noted.predicate? Sample.accounts = .ok (some (.junction .and
      [.junction .or [.test (.compare .equalTo "account.id" "?"),
          .not (.test (.between "account.id" "?" "?"))],
        .test (.nullTest true "account.\"note?\"")])) := by
    rfl
  obtain rfl := Except.ok.inj (given.symm.trans structured)
  exact ⟨_, formatted, told⟩

end EntityQuery

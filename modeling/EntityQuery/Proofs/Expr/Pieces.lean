import EntityQuery.Proofs.Fragment.Separating
import EntityQuery.Proofs.Outcome
import EntityQuery.Proofs.Statement.Operand

/-!
# Pieces of expressions

A formatted expression is a row of pieces: texts that are the same in every scope, raw fragments,
columns, and nested queries.  Which pieces there are depends on the expression alone, because
nothing but a text or a raw fragment can be blank.  The scope only says how each column is written,
so to format an expression is to format its pieces one after the other.
-/

namespace EntityQuery

open Outcome

/-- A piece of a formatted expression. -/
inductive Piece
  | text (fragment : Fragment)
  | raw (fragment : Fragment)
  | column (name : String)
  | field (reference : FieldRef)
  | subquery (plan : Plan)

namespace Piece

def format (scope : Scope) : Piece → Except Error Fragment
  | .text fragment | .raw fragment => .ok fragment
  | .column name => return .ofText (← scope.column name)
  | .field reference => return .ofText (← scope.fieldColumn reference)
  | .subquery plan => return (← plan.select).toFragment.parenthesized

/-- The pieces one after the other. -/
def formatAll (scope : Scope) : List Piece → Except Error Fragment
  | [] => .ok .empty
  | piece :: rest => return (← piece.format scope) ++ (← formatAll scope rest)

/-- Each part by itself. -/
def formatEach (scope : Scope) (parts : List (List Piece)) : Except Error (List Fragment) :=
  parts.mapM (formatAll scope)

def isBlank : Piece → Bool
  | .text fragment | .raw fragment => fragment.isEmpty
  | .column _ | .field _ | .subquery _ => false

def keyword (text : String) : Piece := .text (.ofText text)

def parenthesized (pieces : List Piece) : List Piece := keyword "(" :: pieces ++ [keyword ")"]

/-- The parts that are not blank. -/
def shown (parts : List (List Piece)) : List (List Piece) :=
  parts.filter fun part => !part.all isBlank

def intercalate (separator : String) : List (List Piece) → List Piece
  | [] => []
  | [part] => part
  | part :: rest => part ++ keyword separator :: intercalate separator rest

def joined (separator : String) (parts : List (List Piece)) : List Piece :=
  intercalate separator (shown parts)

/-- Parts that are not blank, in parentheses if there are several. -/
def grouped (connective : Junction) : List (List Piece) → List Piece
  | [] => []
  | [part] => part
  | parts => parenthesized (intercalate connective.separator parts)

def combine (connective : Junction) (parts : List (List Piece)) : List Piece :=
  grouped connective (shown parts)

def operandSet (parts : List (List Piece)) : List Piece :=
  parenthesized (if parts.isEmpty then [.text (.bound .null)] else joined ", " parts)

def rangeBounds (parts : List (List Piece)) : List Piece :=
  parts.head?.getD [.text .unbound] ++
    keyword " AND " :: (parts.drop 1).head?.getD [.text .unbound]

def rowOperand (items : List Expr) (parts : List (List Piece)) : List Piece :=
  match Expr.values? items with
  | some values => [.text (.bound (.array values))]
  | none => parenthesized (joined ", " parts)

def enclose (operand : Expr) (pieces : List Piece) : List Piece :=
  if operand.isEnclosed then pieces else parenthesized pieces

/-- Each value bound to a placeholder of its own. -/
def ofValues (values : List Json) : List (List Piece) :=
  values.map fun value => [.text (.bound value)]

end Piece

/-- Fragments with text, in parentheses if there are several. -/
def Junction.grouped (connective : Junction) : List Fragment → Fragment
  | [] => .empty
  | [part] => part
  | parts => (Fragment.intercalate connective.separator parts).parenthesized

theorem Junction.combine_eq (connective : Junction) (parts : List Fragment) :
    connective.combine parts = connective.grouped (parts.filter fun part => !part.isEmpty) :=
  rfl

def Target.piece : Target → Piece
  | .name fieldName => .column fieldName
  | .field reference => .field reference
  | .raw fragment => .raw fragment

def Piece.quantifiedTarget : Option Target → List Piece
  | none => []
  | some target =>
      if target.piece.isBlank then [target.piece] else [target.piece, keyword " = "]

mutual

/-- The pieces of an expression, from left to right. -/
def Expr.pieces : Expr → List Piece
  | .value value => [.text (.bound value)]
  | .list items => Piece.rowOperand items (Expr.piecesOfEach items)
  | .field reference => [.field reference]
  | .column name => [.column name]
  | .subquery plan => [.subquery plan]
  | .raw fragment => [.raw fragment]
  | .condition condition => condition.pieces
  | .group connective items => Piece.combine connective (Expr.piecesOfEach items)
  | .unbound => [.text .unbound]

def Expr.piecesOfEach : List Expr → List (List Piece)
  | [] => []
  | item :: rest => item.pieces :: Expr.piecesOfEach rest

def Condition.pieces : Condition → List Piece
  | .nullTest negated target =>
      [target.piece, Piece.keyword (" " ++ (Operator.nullTest negated).keyword)]
  | .compare comparison target operand =>
      target.piece :: .text (infixKeyword (.compare comparison)) :: operand.pieces
  | .between target (.list items) => target.piece :: .text (infixKeyword .between) ::
      Piece.rangeBounds (Expr.piecesOfEach items)
  | .between target (.value (.array items)) => target.piece :: .text (infixKeyword .between) ::
      Piece.rangeBounds (Piece.ofValues items)
  | .between target bounds => target.piece :: .text (infixKeyword .between) :: bounds.pieces
  | .isIn target (.list items) => target.piece :: .text (infixKeyword .isIn) ::
      Piece.operandSet (Expr.piecesOfEach items)
  | .isIn target (.value (.array items)) => target.piece :: .text (infixKeyword .isIn) ::
      Piece.operandSet (Piece.ofValues items)
  | .isIn target choices => target.piece :: .text (infixKeyword .isIn) ::
      Piece.enclose choices choices.pieces
  | .not operand => .text (leadingKeyword .not) :: operand.pieces
  | .exists operand => .text (leadingKeyword .exists) :: operand.pieces
  | .quantified quantifier target operand => Piece.quantifiedTarget target ++
      .text (leadingKeyword (.quantified quantifier)) :: Piece.enclose operand operand.pieces
  | .junction connective (.list items) => Piece.combine connective (Expr.piecesOfEach items)
  | .junction connective operand => Piece.combine connective [operand.pieces]

end

namespace Piece

variable {scope : Scope}

@[simp]
theorem formatAll_nil : formatAll scope [] = .ok .empty := rfl

theorem formatAll_cons (piece : Piece) (rest : List Piece) :
    formatAll scope (piece :: rest) = do
      let first ← piece.format scope
      let others ← formatAll scope rest
      return first ++ others :=
  rfl

@[simp]
theorem formatAll_singleton (piece : Piece) : formatAll scope [piece] = piece.format scope := by
  rw [formatAll_cons, formatAll_nil]
  cases piece.format scope with
  | error fault => rfl
  | ok fragment => exact congrArg Except.ok (Fragment.append_empty fragment)

theorem formatAll_append (front back : List Piece) :
    formatAll scope (front ++ back) = do
      let first ← formatAll scope front
      let second ← formatAll scope back
      return first ++ second := by
  induction front with
  | nil =>
      simp only [List.nil_append, formatAll_nil, ok_bind, Fragment.empty_append]
      exact (bind_pure _).symm
  | cons piece rest ih =>
      rw [List.cons_append, formatAll_cons, formatAll_cons, ih]
      simp only [bind_assoc, pure_bind, Fragment.append_assoc]

@[simp]
theorem formatEach_nil : formatEach scope [] = .ok [] := rfl

theorem formatEach_cons (part : List Piece) (rest : List (List Piece)) :
    formatEach scope (part :: rest) = do
      let first ← formatAll scope part
      let others ← formatEach scope rest
      return first :: others :=
  List.mapM_cons

theorem formatAll_parenthesized (pieces : List Piece) :
    formatAll scope (parenthesized pieces) = do
      let fragment ← formatAll scope pieces
      return fragment.parenthesized := by
  unfold parenthesized
  rw [List.cons_append, formatAll_cons, formatAll_append, formatAll_singleton]
  change (formatAll scope pieces >>= _) >>= _ = _
  cases formatAll scope pieces with
  | error fault => rfl
  | ok fragment => exact congrArg Except.ok (Fragment.append_assoc ..).symm

theorem isEmpty_of_format {piece : Piece} {fragment : Fragment}
    (formatted : piece.format scope = .ok fragment) : fragment.isEmpty = piece.isBlank := by
  have qualifiedShown (qualifier name : Ident) :
      (Fragment.ofText (qualifier.qualified name)).isEmpty = false :=
    Fragment.isEmpty_ofText (by simp [Ident.qualified])
  cases piece with
  | text written | raw written =>
      obtain rfl := Except.ok.inj formatted
      rfl
  | column name =>
      obtain ⟨text, resolved, whole⟩ := bind_eq_ok.1 formatted
      obtain ⟨qualifier, column, rfl⟩ := Scope.qualified_of_column resolved
      rw [← pure_eq_ok.1 whole]
      exact qualifiedShown qualifier column
  | field reference =>
      obtain ⟨text, resolved, whole⟩ := bind_eq_ok.1 formatted
      obtain ⟨qualifier, column, rfl⟩ := Scope.qualified_of_fieldColumn resolved
      rw [← pure_eq_ok.1 whole]
      exact qualifiedShown qualifier column
  | subquery plan =>
      obtain ⟨statement, -, whole⟩ := bind_eq_ok.1 formatted
      rw [← pure_eq_ok.1 whole]
      exact Fragment.isEmpty_parenthesized _

/-- Pieces are written as nothing exactly when they are all blank. -/
theorem isEmpty_of_formatAll {pieces : List Piece} {fragment : Fragment}
    (formatted : formatAll scope pieces = .ok fragment) :
    fragment.isEmpty = pieces.all isBlank := by
  induction pieces generalizing fragment with
  | nil =>
      rw [← Except.ok.inj formatted]
      rfl
  | cons piece rest ih =>
      obtain ⟨first, firstShown, more⟩ := bind_eq_ok.1 formatted
      obtain ⟨others, othersShown, whole⟩ := bind_eq_ok.1 more
      rw [← pure_eq_ok.1 whole, Fragment.isEmpty_append, isEmpty_of_format firstShown,
        ih othersShown, List.all_cons]

/-- What is left out does not fail either. -/
theorem exists_of_blank (scope : Scope) {pieces : List Piece} (blank : pieces.all isBlank = true) :
    ∃ fragment, formatAll scope pieces = .ok fragment := by
  induction pieces with
  | nil => exact ⟨_, rfl⟩
  | cons piece rest ih =>
      rw [List.all_cons, Bool.and_eq_true] at blank
      obtain ⟨others, othersShown⟩ := ih blank.2
      have first : ∃ fragment, piece.format scope = .ok fragment := by
        cases piece with
        | text fragment | raw fragment => exact ⟨fragment, rfl⟩
        | column | field | subquery => exact absurd blank.1 (by simp [isBlank])
      obtain ⟨fragment, firstShown⟩ := first
      refine ⟨fragment ++ others, ?_⟩
      rw [formatAll_cons, firstShown, othersShown]
      rfl

theorem formatEach_shown (parts : List (List Piece)) :
    formatEach scope (shown parts) = do
      let fragments ← formatEach scope parts
      return fragments.filter fun part => !part.isEmpty := by
  induction parts with
  | nil => rfl
  | cons part rest ih =>
      unfold shown at ih ⊢
      rw [List.filter_cons, formatEach_cons]
      by_cases blank : part.all isBlank = true
      · obtain ⟨fragment, written⟩ := exists_of_blank scope blank
        have empty := (isEmpty_of_formatAll written).trans blank
        rw [if_neg (by simp [blank]), ih, written]
        simp only [bind_assoc, pure_bind, ok_bind]
        refine bind_congr fun others => ?_
        rw [List.filter_cons_of_neg (by simp [empty])]
      · rw [if_pos (by simpa using blank), formatEach_cons, ih]
        simp only [bind_assoc, pure_bind]
        refine bind_congr_ok fun fragment written => bind_congr fun others => ?_
        have empty := isEmpty_of_formatAll written
        rw [List.filter_cons_of_pos (by simpa [empty] using blank)]

theorem formatAll_intercalate (separator : String) (parts : List (List Piece)) :
    formatAll scope (intercalate separator parts) = do
      let fragments ← formatEach scope parts
      return Fragment.intercalate separator fragments := by
  induction parts with
  | nil => rfl
  | cons part rest ih =>
      cases rest with
      | nil =>
          simp only [formatEach_cons, formatEach_nil, bind_assoc, pure_bind, ok_bind]
          exact (bind_pure _).symm
      | cons next more =>
          have split : intercalate separator (part :: next :: more) =
              part ++ keyword separator :: intercalate separator (next :: more) := rfl
          have separated : (keyword separator).format scope = .ok (.ofText separator) := rfl
          rw [split, formatAll_append, formatAll_cons, ih, formatEach_cons part, formatEach_cons]
          simp only [bind_assoc, pure_bind, separated, ok_bind]
          refine bind_congr fun first => bind_congr fun second => bind_congr fun others => ?_
          rw [← Fragment.append_assoc]
          rfl

theorem formatAll_joined (separator : String) (parts : List (List Piece)) :
    formatAll scope (joined separator parts) = do
      let fragments ← formatEach scope parts
      return Fragment.joined separator fragments := by
  unfold joined
  rw [formatAll_intercalate, formatEach_shown]
  simp only [bind_assoc, pure_bind]
  rfl

theorem formatAll_grouped (connective : Junction) (parts : List (List Piece)) :
    formatAll scope (grouped connective parts) = do
      let fragments ← formatEach scope parts
      return connective.grouped fragments := by
  rcases parts with _ | ⟨part, _ | ⟨next, more⟩⟩
  · rfl
  · simp only [formatEach_cons, formatEach_nil, bind_assoc, pure_bind, ok_bind]
    exact (bind_pure _).symm
  · have several : grouped connective (part :: next :: more) =
        parenthesized (intercalate connective.separator (part :: next :: more)) := rfl
    rw [several, formatAll_parenthesized, formatAll_intercalate, formatEach_cons, formatEach_cons]
    simp only [bind_assoc, pure_bind]
    rfl

theorem formatAll_combine (connective : Junction) (parts : List (List Piece)) :
    formatAll scope (combine connective parts) = do
      let fragments ← formatEach scope parts
      return connective.combine fragments := by
  unfold combine
  rw [formatAll_grouped, formatEach_shown]
  simp only [bind_assoc, pure_bind, Junction.combine_eq]

theorem formatAll_operandSet (parts : List (List Piece)) :
    formatAll scope (operandSet parts) = do
      let fragments ← formatEach scope parts
      return EntityQuery.operandSet fragments := by
  unfold operandSet
  rw [formatAll_parenthesized]
  cases parts with
  | nil => rfl
  | cons part rest =>
      rw [if_neg (by simp), formatAll_joined, formatEach_cons]
      simp only [bind_assoc, pure_bind]
      rfl

theorem formatEach_ofValues (values : List Json) :
    formatEach scope (ofValues values) = .ok (values.map .bound) := by
  induction values with
  | nil => rfl
  | cons value rest ih =>
      unfold ofValues at ih ⊢
      rw [List.map_cons, formatEach_cons, ih, formatAll_singleton]
      rfl

/-- A list of bound values is written as one of them, and none of its items can fail. -/
theorem exists_of_values (scope : Scope) {items : List Expr} {values : List Json}
    (bound : Expr.values? items = some values) :
    ∃ fragments, Expr.formatAll scope items = .ok fragments := by
  induction items generalizing values with
  | nil => exact ⟨_, rfl⟩
  | cons item rest ih =>
      cases item with
      | value held =>
          obtain ⟨others, othersBound, -⟩ := Option.map_eq_some_iff.1 bound
          obtain ⟨fragments, written⟩ := ih othersBound
          exact ⟨.bound held :: fragments, bind_eq_ok.2 ⟨_, rfl, bind_eq_ok.2 ⟨_, written, rfl⟩⟩⟩
      | _ => exact nomatch bound

theorem formatAll_rowOperand {items : List Expr} {parts : List (List Piece)}
    (written : Expr.formatAll scope items = formatEach scope parts) :
    formatAll scope (rowOperand items parts) = do
      let fragments ← formatEach scope parts
      return EntityQuery.rowOperand items fragments := by
  unfold rowOperand EntityQuery.rowOperand
  cases bound : Expr.values? items with
  | some values =>
      obtain ⟨fragments, shown⟩ := exists_of_values scope bound
      rw [← written, shown, formatAll_singleton]
      rfl
  | none =>
      rw [formatAll_parenthesized, formatAll_joined]
      simp only [bind_assoc, pure_bind]

/-- Parts past the second are not looked at. -/
theorem formatAll_rangeBounds (parts : List (List Piece)) :
    formatAll scope (rangeBounds parts) = do
      let fragments ← formatEach scope (parts.take 2)
      return EntityQuery.rangeBounds fragments := by
  have separated : (keyword " AND ").format scope = .ok (.ofText " AND ") := rfl
  rcases parts with _ | ⟨low, _ | ⟨high, more⟩⟩
  · rfl
  · have bounds : rangeBounds [low] = low ++ keyword " AND " :: [.text .unbound] := rfl
    rw [bounds, formatAll_append, formatAll_cons, separated, formatAll_singleton]
    simp only [List.take_succ_cons, List.take_nil, formatEach_cons, formatEach_nil, bind_assoc,
      pure_bind, ok_bind]
    refine bind_congr fun first => ?_
    change Except.ok (first ++ (.ofText " AND " ++ .unbound)) = _
    rw [← Fragment.append_assoc]
    rfl
  · have bounds : rangeBounds (low :: high :: more) = low ++ keyword " AND " :: high := rfl
    rw [bounds, formatAll_append, formatAll_cons, separated]
    simp only [List.take_succ_cons, List.take_zero, formatEach_cons, formatEach_nil, bind_assoc,
      pure_bind, ok_bind]
    refine bind_congr fun first => bind_congr fun second => ?_
    rw [← Fragment.append_assoc]
    rfl

theorem formatAll_rangeBounds_ofValues (values : List Json) :
    formatAll scope (rangeBounds (ofValues values)) =
      .ok (EntityQuery.rangeBounds (values.map .bound)) := by
  have firstTwo : (ofValues values).take 2 = ofValues (values.take 2) := List.map_take.symm
  rw [formatAll_rangeBounds, firstTwo, formatEach_ofValues]
  rcases values with _ | ⟨low, _ | ⟨high, more⟩⟩ <;> rfl

theorem formatAll_enclose (operand : Expr) (pieces : List Piece) :
    formatAll scope (enclose operand pieces) = do
      let fragment ← formatAll scope pieces
      return operand.enclose fragment := by
  unfold enclose Expr.enclose
  split_ifs
  · exact (bind_pure _).symm
  · exact formatAll_parenthesized pieces

theorem format_target (target : Target) : target.piece.format scope = target.format scope := by
  cases target <;> rfl

theorem formatAll_afterTarget (target : Target) (operator : Operator) (pieces : List Piece) :
    formatAll scope (target.piece :: .text (infixKeyword operator) :: pieces) = do
      let shown ← target.format scope
      let rest ← formatAll scope pieces
      return shown ++ infixKeyword operator ++ rest := by
  have written : (text (infixKeyword operator)).format scope = .ok (infixKeyword operator) := rfl
  rw [formatAll_cons, formatAll_cons, written, format_target]
  simp only [bind_assoc, pure_bind, ok_bind, Fragment.append_assoc]

theorem formatAll_text (fragment : Fragment) (pieces : List Piece) :
    formatAll scope (.text fragment :: pieces) = do
      let rest ← formatAll scope pieces
      return fragment ++ rest :=
  rfl

theorem formatAll_quantifiedTarget (target : Option Target) :
    formatAll scope (quantifiedTarget target) = EntityQuery.quantifiedTarget scope target := by
  cases target with
  | none => rfl
  | some target =>
      have given : EntityQuery.quantifiedTarget scope (some target) = (do
          let fragment ← target.piece.format scope
          return if fragment.isEmpty then fragment else fragment ++ .ofText " = ") := by
        rw [format_target]
        rfl
      rw [given]
      dsimp only [quantifiedTarget]
      split_ifs with blank
      · rw [formatAll_singleton, ← bind_pure (target.piece.format scope)]
        simp only [bind_assoc, pure_bind]
        refine bind_congr_ok fun fragment written => ?_
        rw [isEmpty_of_format written, if_pos blank]
      · rw [formatAll_cons, formatAll_singleton]
        refine bind_congr_ok fun fragment written => ?_
        rw [isEmpty_of_format written, if_neg blank]
        rfl

end Piece

namespace Condition

variable {scope : Scope} {target : Target}

theorem pieces_between_of_single {bounds : Expr} (single : bounds.isOperandSet = false) :
    (between target bounds).pieces =
      target.piece :: .text (infixKeyword .between) :: bounds.pieces := by
  cases bounds with
  | list items => simp [Expr.isOperandSet] at single
  | value held => cases held <;> first | rfl | simp [Expr.isOperandSet] at single
  | _ => rfl

theorem pieces_isIn_of_single {choices : Expr} (single : choices.isOperandSet = false) :
    (isIn target choices).pieces =
      target.piece :: .text (infixKeyword .isIn) :: Piece.enclose choices choices.pieces := by
  cases choices with
  | list items => simp [Expr.isOperandSet] at single
  | value held => cases held <;> first | rfl | simp [Expr.isOperandSet] at single
  | _ => rfl

theorem pieces_junction_of_single {connective : Junction} {operand : Expr}
    (single : operand.isList = false) :
    (junction connective operand).pieces = Piece.combine connective [operand.pieces] := by
  cases operand with
  | list items => simp [Expr.isList] at single
  | _ => rfl

theorem between_eq_pieces_of_single {bounds : Expr} (single : bounds.isOperandSet = false)
    (written : bounds.format scope = Piece.formatAll scope bounds.pieces) :
    (between target bounds).format scope =
      Piece.formatAll scope (between target bounds).pieces := by
  rw [format_between_of_single single, pieces_between_of_single single,
    Piece.formatAll_afterTarget, written]

theorem isIn_eq_pieces_of_single {choices : Expr} (single : choices.isOperandSet = false)
    (written : choices.format scope = Piece.formatAll scope choices.pieces) :
    (isIn target choices).format scope = Piece.formatAll scope (isIn target choices).pieces := by
  rw [format_isIn_of_single single, pieces_isIn_of_single single, Piece.formatAll_afterTarget,
    Piece.formatAll_enclose, written]
  simp only [bind_assoc, pure_bind]

theorem junction_eq_pieces_of_single {connective : Junction} {operand : Expr}
    (single : operand.isList = false)
    (written : operand.format scope = Piece.formatAll scope operand.pieces) :
    (junction connective operand).format scope =
      Piece.formatAll scope (junction connective operand).pieces := by
  rw [format_junction_of_single single, pieces_junction_of_single single,
    Piece.formatAll_combine, written]
  simp only [Piece.formatEach_cons, Piece.formatEach_nil, bind_assoc, pure_bind, ok_bind]

end Condition

mutual

/-- To format an expression is to format its pieces one after the other. -/
theorem Expr.format_eq_pieces (scope : Scope) :
    ∀ expr : Expr, expr.format scope = Piece.formatAll scope expr.pieces
  | .value held => (Piece.formatAll_singleton (.text (.bound held))).symm
  | .list items => by
      have written := Expr.formatAll_eq_pieces scope items
      rw [Expr.pieces, Piece.formatAll_rowOperand written, ← written]
      rfl
  | .field reference => (Piece.formatAll_singleton (.field reference)).symm
  | .column name => (Piece.formatAll_singleton (.column name)).symm
  | .subquery plan => (Piece.formatAll_singleton (.subquery plan)).symm
  | .raw fragment => (Piece.formatAll_singleton (.raw fragment)).symm
  | .condition condition => condition.format_eq_pieces scope
  | .group connective items => by
      rw [Expr.pieces, Piece.formatAll_combine, ← Expr.formatAll_eq_pieces scope items]
      rfl
  | .unbound => (Piece.formatAll_singleton (.text .unbound)).symm

theorem Expr.formatAll_eq_pieces (scope : Scope) :
    ∀ items : List Expr, Expr.formatAll scope items =
      Piece.formatEach scope (Expr.piecesOfEach items)
  | [] => rfl
  | item :: rest => by
      rw [Expr.piecesOfEach, Piece.formatEach_cons, ← item.format_eq_pieces scope,
        ← Expr.formatAll_eq_pieces scope rest]
      rfl

theorem Condition.format_eq_pieces (scope : Scope) :
    ∀ condition : Condition, condition.format scope = Piece.formatAll scope condition.pieces
  | .nullTest negated target => by
      rw [Condition.pieces, Piece.formatAll_cons, Piece.formatAll_singleton, Piece.format_target]
      rfl
  | .compare comparison target operand => by
      rw [Condition.pieces, Piece.formatAll_afterTarget, ← operand.format_eq_pieces scope]
      rfl
  | .between target bounds => by
      cases bounds with
      | list items =>
          rw [Condition.pieces, Piece.formatAll_afterTarget, Piece.formatAll_rangeBounds]
          match items with
          | [] =>
              rfl
          | [low] =>
              rw [Condition.format_between_one, low.format_eq_pieces scope]
              simp only [Expr.piecesOfEach, List.take_succ_cons, List.take_nil,
                Piece.formatEach_cons, Piece.formatEach_nil, bind_assoc, pure_bind, ok_bind]
          | low :: high :: rest =>
              rw [Condition.format_between_two, low.format_eq_pieces scope,
                high.format_eq_pieces scope]
              simp only [Expr.piecesOfEach, List.take_succ_cons, List.take_zero,
                Piece.formatEach_cons, Piece.formatEach_nil, bind_assoc, pure_bind, ok_bind]
      | value held =>
          cases held with
          | array items =>
              rw [Condition.format_between_array, Condition.pieces, Piece.formatAll_afterTarget,
                Piece.formatAll_rangeBounds_ofValues]
              rfl
          | _ => exact Condition.between_eq_pieces_of_single rfl (Expr.format_eq_pieces scope _)
      | _ => exact Condition.between_eq_pieces_of_single rfl (Expr.format_eq_pieces scope _)
  | .isIn target choices => by
      cases choices with
      | list items =>
          rw [Condition.format_isIn_list, Condition.pieces, Piece.formatAll_afterTarget,
            Piece.formatAll_operandSet, Expr.formatAll_eq_pieces scope items]
          simp only [bind_assoc, pure_bind]
      | value held =>
          cases held with
          | array items =>
              rw [Condition.format_isIn_array, Condition.pieces, Piece.formatAll_afterTarget,
                Piece.formatAll_operandSet, Piece.formatEach_ofValues]
              rfl
          | _ => exact Condition.isIn_eq_pieces_of_single rfl (Expr.format_eq_pieces scope _)
      | _ => exact Condition.isIn_eq_pieces_of_single rfl (Expr.format_eq_pieces scope _)
  | .not operand => by
      rw [Condition.pieces, Piece.formatAll_text, ← operand.format_eq_pieces scope]
      rfl
  | .exists operand => by
      rw [Condition.pieces, Piece.formatAll_text, ← operand.format_eq_pieces scope]
      rfl
  | .quantified quantifier target operand => by
      rw [Condition.format_quantified, Condition.pieces, Piece.formatAll_append,
        Piece.formatAll_quantifiedTarget, Piece.formatAll_text, Piece.formatAll_enclose,
        operand.format_eq_pieces scope]
      simp only [bind_assoc, pure_bind, Fragment.append_assoc]
  | .junction connective operand => by
      cases operand with
      | list items =>
          rw [Condition.format_junction_list, Condition.pieces, Piece.formatAll_combine,
            Expr.formatAll_eq_pieces scope items]
      | _ => exact Condition.junction_eq_pieces_of_single rfl (Expr.format_eq_pieces scope _)

end

end EntityQuery

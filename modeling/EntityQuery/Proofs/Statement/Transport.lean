import EntityQuery.Proofs.Statement.Clauses

/-!
# Formatting goes through relations

Formatting related trees fails alike, or gives related fragments of the weight of the trees.  The
induction is on how the trees are related, and each case is the operation that formatting performs
there.
-/

namespace EntityQuery

open Placeholder Outcome

variable {relation : FragmentRelation}

mutual

theorem Expr.matches_format {scope current : Scope} (agree : relation.Agree scope current) :
    ∀ {weight : Nat} {first second : Expr}, Expr.Related relation weight first second →
      Matches (relation.related weight) (first.format scope) (second.format current)
  | _, _, _, .value literal => .ok (relation.bound literal.datum)
  | _, _, _, .list items => by
      simp only [Expr.format]
      exact (Expr.matches_formatAll agree items).bind fun _ _ shown =>
        .ok (FragmentRelation.rowOperand items shown)
  | _, _, _, .field reference => by
      simp only [Expr.format]
      exact (agree.fieldColumn reference).bind fun _ _ shown => .ok shown
  | _, _, _, .column name => by
      simp only [Expr.format]
      exact (agree.column name).bind fun _ _ shown => .ok shown
  | _, _, _, .subquery plans => by
      simp only [Expr.format]
      exact (Plan.matches_select plans).bind fun _ _ shown =>
        .ok (FragmentRelation.parenthesized shown.shown)
  | _, _, _, .raw fragments => .ok fragments
  | _, _, _, .condition conditions => Condition.matches_format agree conditions
  | _, _, _, .group connective items => by
      simp only [Expr.format]
      exact (Expr.matches_formatAll agree items).bind fun _ _ shown =>
        .ok (shown.combine connective)
  | _, _, _, .unbound => .ok relation.unbound

theorem Expr.matches_formatAll {scope current : Scope} (agree : relation.Agree scope current) :
    ∀ {weight : Nat} {items others : List Expr}, Expr.AllRelated relation weight items others →
      Matches (relation.All weight) (Expr.formatAll scope items) (Expr.formatAll current others)
  | _, _, _, .nil => .ok .nil
  | _, _, _, .cons head tail => by
      simp only [Expr.formatAll]
      exact (Expr.matches_format agree head).bind fun _ _ part =>
        (Expr.matches_formatAll agree tail).bind fun _ _ rest => .ok (.cons part rest)

theorem Expr.matches_operand {scope current : Scope} (agree : relation.Agree scope current) :
    ∀ {weight : Nat} {first second : Expr}, Expr.OperandRelated relation weight first second →
      Matches (relation.related weight) (first.format scope) (second.format current)
  | _, _, _, .within related => Expr.matches_format agree related
  | _, _, _, .value data => .ok (relation.bound data)
  | _, _, _, .inlined fragments => .ok fragments

theorem Expr.matches_operands {scope current : Scope} (agree : relation.Agree scope current) :
    ∀ {weight : Nat} {items others : List Expr},
      Expr.AllOperandRelated relation weight items others →
      Matches (relation.All weight) (Expr.formatAll scope items) (Expr.formatAll current others)
  | _, _, _, .nil => .ok .nil
  | _, _, _, .cons head tail => by
      simp only [Expr.formatAll]
      exact (Expr.matches_operand agree head).bind fun _ _ part =>
        (Expr.matches_operands agree tail).bind fun _ _ rest => .ok (.cons part rest)

theorem Condition.matches_format {scope current : Scope} (agree : relation.Agree scope current) :
    ∀ {weight : Nat} {first second : Condition}, Condition.Related relation weight first second →
      Matches (relation.related weight) (first.format scope) (second.format current)
  | _, _, _, .nullTest negated targets => by
      have keyword := relation.keyword (" " ++ (Operator.nullTest negated).keyword)
        (isInert_append.2 ⟨by decide, Operator.keyword_inert _⟩)
      simp only [Condition.format]
      exact (FragmentRelation.target targets agree).bind fun _ _ shown =>
        .ok (FragmentRelation.trailing shown keyword)
  | _, _, _, .compare comparison targets operands => by
      simp only [Condition.format]
      exact (FragmentRelation.target targets agree).bind fun _ _ shown =>
        (Expr.matches_operand agree operands).bind fun _ _ inner =>
          .ok (FragmentRelation.afterTarget shown (relation.infixKeyword _) inner)
  | _, _, _, .betweenNone targets => by
      simp only [Condition.format_between_nil]
      exact (FragmentRelation.target targets agree).bind fun _ _ shown =>
        .ok (FragmentRelation.afterTarget shown (relation.infixKeyword _)
          (FragmentRelation.range relation.unbound relation.unbound))
  | _, _, _, .betweenOne targets low => by
      simp only [Condition.format_between_one]
      exact (FragmentRelation.target targets agree).bind fun _ _ shown =>
        (Expr.matches_operand agree low).bind fun _ _ lower =>
          .ok (FragmentRelation.afterTarget shown (relation.infixKeyword _)
            (FragmentRelation.range lower relation.unbound))
  | _, _, _, .betweenTwo _ _ targets low high => by
      simp only [Condition.format_between_two]
      exact (FragmentRelation.target targets agree).bind fun _ _ shown =>
        (Expr.matches_operand agree low).bind fun _ _ lower =>
          (Expr.matches_operand agree high).bind fun _ _ upper =>
            .ok (FragmentRelation.afterTarget shown (relation.infixKeyword _)
              (FragmentRelation.range lower upper))
  | _, _, _, .betweenArray targets data => by
      simp only [Condition.format_between_array]
      exact (FragmentRelation.target targets agree).bind fun _ _ shown =>
        .ok (FragmentRelation.afterTarget shown (relation.infixKeyword _)
          (FragmentRelation.range_bound data))
  | _, _, _, .between single targets bounds => by
      rw [Condition.format_between_of_single single,
        Condition.format_between_of_single (bounds.isOperandSet_eq.trans single)]
      exact (FragmentRelation.target targets agree).bind fun _ _ shown =>
        (Expr.matches_format agree bounds).bind fun _ _ inner =>
          .ok (FragmentRelation.afterTarget shown (relation.infixKeyword _) inner)
  | _, _, _, .isInList targets items => by
      simp only [Condition.format_isIn_list]
      exact (FragmentRelation.target targets agree).bind fun _ _ shown =>
        (Expr.matches_operands agree items).bind fun _ _ inner =>
          .ok (FragmentRelation.afterTarget shown (relation.infixKeyword _)
            (FragmentRelation.operandSet inner))
  | _, _, _, .isInArray targets data => by
      simp only [Condition.format_isIn_array]
      exact (FragmentRelation.target targets agree).bind fun _ _ shown =>
        .ok (FragmentRelation.afterTarget shown (relation.infixKeyword _)
          (FragmentRelation.operandSet (FragmentRelation.all_bound data)))
  | _, _, _, .isIn single targets choices => by
      rw [Condition.format_isIn_of_single single,
        Condition.format_isIn_of_single (choices.isOperandSet_eq.trans single)]
      exact (FragmentRelation.target targets agree).bind fun _ _ shown =>
        (Expr.matches_format agree choices).bind fun _ _ inner =>
          .ok (FragmentRelation.afterTarget shown (relation.infixKeyword _)
            (FragmentRelation.enclose choices.isEnclosed_eq inner))
  | _, _, _, .not operand => by
      simp only [Condition.format]
      exact (Expr.matches_format agree operand).bind fun _ _ inner =>
        .ok (FragmentRelation.leading (relation.leadingKeyword _) inner)
  | _, _, _, .exists operand => by
      simp only [Condition.format]
      exact (Expr.matches_format agree operand).bind fun _ _ inner =>
        .ok (FragmentRelation.leading (relation.leadingKeyword _) inner)
  | _, _, _, .quantified quantifier targets operand => by
      simp only [Condition.format_quantified]
      exact (FragmentRelation.quantifiedTarget targets agree).bind fun _ _ shown =>
        (Expr.matches_format agree operand).bind fun _ _ inner =>
          .ok (FragmentRelation.afterTarget shown (relation.leadingKeyword _)
            (FragmentRelation.enclose operand.isEnclosed_eq inner))
  | _, _, _, .junctionList connective items => by
      simp only [Condition.format_junction_list]
      exact (Expr.matches_formatAll agree items).bind fun _ _ shown =>
        .ok (shown.combine connective)
  | _, _, _, .junction connective single operand => by
      rw [Condition.format_junction_of_single single,
        Condition.format_junction_of_single (operand.isList_eq.trans single)]
      exact (Expr.matches_format agree operand).bind fun _ _ inner =>
        .ok ((FragmentRelation.All.singleton inner).combine connective)

theorem ColumnSource.matches_format (scope : Scope) :
    ∀ {weight : Nat} {first second : ColumnSource},
      ColumnSource.Related relation weight first second →
      Matches (relation.related weight) (first.format scope) (second.format scope)
  | _, _, _, .field name => by
      simp only [ColumnSource.format]
      exact ((relation.agree_self scope).column name).bind fun _ _ shown => .ok shown
  | _, _, _, .raw fragments => .ok fragments
  | _, _, _, .subquery plans => by
      simp only [ColumnSource.format]
      exact (Plan.matches_select plans).bind fun _ _ shown =>
        .ok (FragmentRelation.parenthesized shown.shown)

theorem Column.matches_formatAll (scope : Scope) (join : Option String) :
    ∀ {weight : Nat} {columns fields : List Column},
      Column.AllRelated relation weight columns fields →
      Matches (relation.Columns weight) (Column.formatAll scope join columns)
        (Column.formatAll scope join fields)
  | _, _, _, .nil => .ok .nil
  | _, _, _, .cons name sources rest => by
      simp only [Column.formatAll, Column.format]
      have own := (ColumnSource.matches_format scope sources).bind fun _ _ shown =>
        FragmentRelation.ofSource sources shown scope
          (match join with
            | some join => join ++ "." ++ name
            | none => name)
      exact own.bind fun _ _ head => (Column.matches_formatAll scope join rest).bind
        fun _ _ tail => .ok (head.append tail)

theorem Join.matches_formatAll (owner : Scope) :
    ∀ {clauseWeight columnWeight : Nat} {joins tables : List Join},
      Join.AllRelated relation clauseWeight columnWeight joins tables →
      Matches (relation.Joins clauseWeight columnWeight) (Join.formatAll owner joins)
        (Join.formatAll owner tables)
  | _, _, _, _, .nil => .ok ⟨.nil, .nil⟩
  | _, _, _, _, .cons kind entity tableAlias name pairs columns filter rest => by
      simp only [Join.formatAll, Join.format_eq]
      refine Matches.bind (?_ : Matches (fun table twin : JoinedTable =>
        relation.related _ table.clause twin.clause ∧
          relation.Columns _ table.columns twin.columns) _ _) fun _ _ head =>
            (Join.matches_formatAll owner rest).bind fun _ _ tail =>
              .ok ⟨.cons head.1 tail.clauses, head.2.append tail.columns⟩
      refine (relation.joinHead owner entity tableAlias name pairs).bind ?_
      rintro head _ ⟨rfl, sourceQuiet, keys⟩
      exact (Expr.matches_formatAll (relation.agree_self _) filter).bind fun _ _ conditions =>
        (Column.matches_formatAll (head.scope entity) (some head.name) columns).bind
          fun _ _ shown => .ok
            ⟨FragmentRelation.joinClause kind head sourceQuiet keys conditions, shown⟩

theorem Plan.matches_select : ∀ {weights : Plan.Part → Nat} {first second : Plan},
    Plan.Related relation weights first second →
      Matches (relation.Statements (Plan.Part.sum weights)) first.select second.select
  | weights, ⟨_, _, _, _, _, held, _⟩, _, .mk entity tableAlias columns joins filter having
      settings => by
      simp only [Plan.select]
      refine (Matches.refl _).bind ?_
      rintro scope _ rfl
      refine (Column.matches_formatAll scope none columns).bind fun own ownTwin ownShown => ?_
      refine (Join.matches_formatAll scope joins).bind fun joined joinedTwin joinedShown => ?_
      refine (FragmentRelation.source scope).bind ?_
      rintro source _ ⟨rfl, sourceQuiet⟩
      refine (Expr.matches_formatAll (relation.agree_self scope) filter).bind
        fun _ _ filterShown => ?_
      refine (FragmentRelation.groupBy settings scope).bind fun _ _ groupShown => ?_
      refine (Expr.matches_formatAll (relation.agree_self scope) having).bind
        fun _ _ havingShown => ?_
      refine (FragmentRelation.orderBy settings scope).bind fun _ _ orderShown => ?_
      refine (FragmentRelation.locking settings).bind ?_
      rintro locking _ ⟨rfl, lockingQuiet⟩
      have selected := ownShown.append joinedShown.columns
      have headInert : IsInert ("SELECT " ++ if held.distinct then "DISTINCT " else "") := by
        split <;> decide
      have fromQuiet := (isQuiet_of_isInert "FROM " (by decide)).append sourceQuiet
      refine .ok ⟨selected.aliases, ?_⟩
      rw [← settings.distinct, ← settings.limit_eq, ← settings.offset_eq]
      have whole := FragmentRelation.All.clauses <|
        .cons (FragmentRelation.leading (relation.keyword _ headInert) selected.list) <|
        .cons (relation.quiet fromQuiet) <|
        .cons joinedShown.clauses.clauses <|
        .cons (filterShown.predicate "WHERE " (by decide)) <|
        .cons groupShown <|
        .cons (havingShown.predicate "HAVING " (by decide)) <|
        .cons orderShown <|
        .cons (relation.quiet (Clause.isQuiet_limit held)) <|
        .cons (relation.quiet (Clause.isQuiet_offset held)) <|
        .singleton (relation.quiet lockingQuiet)
      exact FragmentRelation.of_eq whole (by simp only [Plan.Part.sum]; omega)

end

end EntityQuery

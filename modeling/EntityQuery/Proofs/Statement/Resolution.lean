import EntityQuery.Proofs.Plan.Requirement

/-!
# Statements and their requirements

A step of formatting requires a list of things if it succeeds only with all of them and otherwise
fails with the error of the first that is missing.  Steps in sequence require what each of them
does, so that the requirements of a plan are exactly what its SELECT statement depends on.
-/

namespace EntityQuery

open Outcome

namespace Ident

variable {name : String}

theorem isName_of_ofName {ident : Ident} (made : ofName name = .ok ident) : IsName name := by
  unfold ofName at made
  split_ifs at made with empty nul
  exact ⟨fun same => empty (by simp [same]), nul⟩

theorem not_isName_of_ofName {fault : IdentFault} (refused : ofName name = .error fault) :
    ¬ IsName name := by
  rintro ⟨filled, clean⟩
  unfold ofName at refused
  split_ifs at refused with empty
  exact filled (String.toList_eq_nil_iff.1 empty)

end Ident

namespace Requirement

variable {requirement : Requirement} {requirements : List Requirement} {error : Error}

theorem Raises.not_isMet (raised : requirement.Raises error) : ¬ requirement.IsMet := by
  cases raised with
  | table missing => exact fun met => met missing
  | field unknown => exact unknown
  | link => exact fun met => met rfl
  | columnAlias refused | name refused | lockedTable refused =>
      exact Ident.not_isName_of_ofName refused
  | batchSize => exact fun met => met rfl
  | rows => exact nofun

theorem FirstRaises.append {own : List Requirement} (met : ∀ requirement ∈ own, requirement.IsMet)
    (raised : FirstRaises requirements error) : FirstRaises (own ++ requirements) error := by
  induction own with
  | nil => exact raised
  | cons first rest ih =>
      obtain ⟨firstMet, restMet⟩ := List.forall_mem_cons.1 met
      exact .later firstMet (ih restMet)

theorem FirstRaises.appendRight (raised : FirstRaises requirements error)
    (others : List Requirement) : FirstRaises (requirements ++ others) error := by
  induction raised with
  | here raised => exact .here raised
  | later met _ ih => exact .later met ih

theorem FirstRaises.exists_mem (raised : FirstRaises requirements error) :
    ∃ requirement ∈ requirements, requirement.Raises error := by
  induction raised with
  | here raised => exact ⟨_, List.mem_cons_self, raised⟩
  | later _ _ ih =>
      obtain ⟨requirement, member, raised⟩ := ih
      exact ⟨requirement, List.mem_cons_of_mem _ member, raised⟩

end Requirement

variable {α β : Type}

/-- The step succeeds only with all requirements met, and fails with the error of the first one that
is not. -/
def Requires (requirements : List Requirement) : Except Error α → Prop
  | .ok _ => ∀ requirement ∈ requirements, requirement.IsMet
  | .error error => Requirement.FirstRaises requirements error

namespace Requires

variable {own others : List Requirement} {computed : Except Error α}

theorem ok (value : α) : Requires [] (.ok value) := List.forall_mem_nil _

theorem prepend (met : ∀ requirement ∈ own, requirement.IsMet)
    (requires : Requires others computed) : Requires (own ++ others) computed := by
  cases computed with
  | ok value => exact List.forall_mem_append.2 ⟨met, requires⟩
  | error error => exact Requirement.FirstRaises.append met requires

/-- What a sequence requires first comes first. -/
theorem bind {next : α → Except Error β} (first : Requires own computed)
    (second : ∀ value, computed = .ok value → Requires others (next value)) :
    Requires (own ++ others) (computed >>= next) := by
  cases computed with
  | ok value => exact prepend first (second value rfl)
  | error error => exact Requirement.FirstRaises.appendRight first others

/-- A sequence whose second part requires nothing more. -/
theorem andThen {next : α → Except Error β} (first : Requires own computed)
    (second : ∀ value, computed = .ok value → Requires [] (next value)) :
    Requires own (computed >>= next) := by
  simpa only [List.append_nil] using first.bind second

theorem map {shown : α → β} (first : Requires own computed) :
    Requires own (computed >>= fun value => pure (shown value)) :=
  first.andThen fun value _ => ok (shown value)

theorem mapM {γ : Type} {needs : γ → List Requirement} {step : γ → Except Error α}
    (each : ∀ item, Requires (needs item) (step item)) (items : List γ) :
    Requires (items.flatMap needs) (items.mapM step) := by
  induction items with
  | nil => exact ok []
  | cons item rest ih =>
      rw [List.mapM_cons, List.flatMap_cons]
      exact (each item).bind fun _ _ => ih.map

/-- Whatever an identifier is made for, it is its name that is required. -/
theorem ofName {requirement : Requirement} {name : String} (shown : Ident → α)
    {refusal : IdentFault → Error} (met : Ident.IsName name → requirement.IsMet)
    (raises : ∀ fault, Ident.ofName name = .error fault → requirement.Raises (refusal fault)) :
    Requires [requirement] (match Ident.ofName name with
      | .ok ident => .ok (shown ident)
      | .error fault => .error (refusal fault)) := by
  cases made : Ident.ofName name with
  | ok ident => exact List.forall_mem_singleton.2 (met (Ident.isName_of_ofName made))
  | error fault => exact .here (raises fault made)

theorem exists_ok_iff (requires : Requires own computed) :
    (∃ value, computed = .ok value) ↔ ∀ requirement ∈ own, requirement.IsMet := by
  cases computed with
  | ok value => exact iff_of_true ⟨value, rfl⟩ requires
  | error error =>
      refine iff_of_false nofun fun met => ?_
      obtain ⟨requirement, member, raised⟩ := Requirement.FirstRaises.exists_mem requires
      exact raised.not_isMet (met requirement member)

theorem firstRaises (requires : Requires own computed) {error : Error}
    (failed : computed = .error error) : Requirement.FirstRaises own error := by
  subst failed
  exact requires

end Requires

namespace Entity

variable (entity : Entity)

theorem requires_requireTable : Requires [.table entity] entity.requireTable := by
  unfold requireTable
  split
  case h_1 _ held => exact List.forall_mem_singleton.2 (by simp [Requirement.IsMet, held])
  case h_2 missing => exact .here (.table missing)

theorem requires_field (name : String) : Requires [.field entity name] (entity.field name) := by
  unfold field
  split
  case h_1 field found =>
      refine List.forall_mem_singleton.2 (hasField_iff.1 ?_)
      rw [hasField, found, Option.isSome_some]
  case h_2 missing =>
      refine .here (.field fun member => ?_)
      have known := hasField_iff.2 member
      rw [hasField, missing] at known
      cases known

theorem requires_qualifiedTable : Requires [.table entity] entity.qualifiedTable :=
  entity.requires_requireTable.map

end Entity

namespace Scope

theorem requires_ofNames (entity : Entity) (tableAlias : Option String) :
    Requires (tableAlias.toList.map (.name entity .queryAlias)) (ofNames entity tableAlias) := by
  refine Requires.map ?_
  cases tableAlias with
  | none => exact Requires.ok none
  | some name => exact Requires.ofName some id fun _ refused => .name refused

theorem named_of_ofNames {entity : Entity} {tableAlias : Option String} {scope : Scope}
    (resolved : ofNames entity tableAlias = .ok scope) : scope.named = ⟨entity, tableAlias⟩ := by
  obtain ⟨ident, given, whole⟩ := bind_eq_ok.1 resolved
  rw [← pure_eq_ok.1 whole]
  cases tableAlias with
  | none =>
      obtain rfl := Except.ok.inj given
      rfl
  | some name =>
      unfold EntityDeclaration.resolveName at given
      dsimp only at given
      split at given
      case h_1 made =>
          obtain rfl := Except.ok.inj given
          rw [named, Option.map_some, Ident.name_of_ofName made]
      case h_2 => exact nomatch given

variable (scope : Scope)

theorem requires_qualifier : Requires scope.named.qualifier scope.qualifier := by
  obtain ⟨entity, tableAlias⟩ := scope
  cases tableAlias with
  | none => exact entity.requires_requireTable
  | some ident => exact Requires.ok ident

theorem requires_column (name : String) :
    Requires (scope.named.column name) (scope.column name) :=
  (scope.entity.requires_field name).bind fun _ _ => scope.requires_qualifier.map

theorem requires_fieldColumn (reference : FieldRef) :
    Requires (scope.named.fieldColumn reference) (scope.fieldColumn reference) := by
  unfold NamedScope.fieldColumn fieldColumn
  split_ifs with same other other
  · exact scope.requires_column reference.name
  · exact absurd same other
  · exact absurd other same
  · exact reference.owner.requires_requireTable.map

theorem requires_source : Requires [.table scope.entity] scope.source :=
  scope.entity.requires_qualifiedTable.map

end Scope

theorem Target.requires_format (scope : Scope) (target : Target) :
    Requires (target.requirements scope.named) (target.format scope) := by
  cases target with
  | name fieldName => exact (scope.requires_column fieldName).map
  | field reference => exact (scope.requires_fieldColumn reference).map
  | raw fragment => exact Requires.ok fragment

theorem requires_quantifiedTarget (scope : Scope) (target : Option Target) :
    Requires (target.toList.flatMap (Target.requirements scope.named))
      (quantifiedTarget scope target) := by
  cases target with
  | none => exact Requires.ok Fragment.empty
  | some target =>
      rw [Option.toList_some, List.flatMap_singleton]
      exact (target.requires_format scope).map

namespace Clause

variable (scope : Scope) (settings : PlanSettings)

theorem requires_groupBy : Requires
    (settings.groupBy.flatMap (Target.requirements scope.named)) (groupBy scope settings) :=
  (Requires.mapM (Target.requires_format scope) settings.groupBy).map

theorem requires_orderBy : Requires
    (settings.orderBy.flatMap fun term => term.target.requirements scope.named)
    (orderBy scope settings) :=
  (Requires.mapM (fun term : OrderTerm => (term.target.requires_format scope).map)
    settings.orderBy).map

theorem requires_validated (name : String) :
    Requires [.lockedTable name] (Ident.validated name) :=
  Requires.ofName id id fun _ refused => .lockedTable refused

theorem requires_locking (details : Locking) :
    Requires details.requirements (locking details) := by
  have tables := Requires.mapM requires_validated details.tables
  rw [← List.map_eq_flatMap] at tables
  unfold locking lockMode Locking.requirements
  cases exclusive : details.forUpdate with
  | true => exact tables.map
  | false =>
      cases shared : details.forShare with
      | true => exact tables.map
      | false => exact Requires.ok ""

end Clause

theorem OutputColumn.requires_ofSource (scope : Scope) (outputAlias : String)
    (source : ColumnSource) (fragment : Fragment) :
    Requires (scope.named.outputAlias outputAlias source)
      (ofSource scope outputAlias source fragment) := by
  have labelled : Requires [.columnAlias scope.entity outputAlias]
      (ofSource scope outputAlias (.raw fragment) fragment) := by
    simp only [ofSource, Bool.false_eq_true, if_false]
    exact Requires.ofName _ id fun _ refused => .columnAlias refused
  cases source with
  | raw _ => exact labelled
  | subquery _ => exact labelled
  | field name =>
      by_cases own : outputAlias = name
      · simp only [NamedScope.outputAlias, ofSource, own, beq_self_eq_true, if_true]
        exact Requires.ok _
      · have written : ofSource scope outputAlias (.field name) fragment =
            ofSource scope outputAlias (.raw fragment) fragment := by
          simp [ofSource, own]
        rw [written, NamedScope.outputAlias, if_neg own]
        exact labelled

namespace JoinedTable

theorem resolvePairs_eq (owner joined : Entity) (pairs : List (String × String)) :
    resolvePairs owner joined pairs =
      if (owner.linkedPairs joined pairs).isEmpty then
        .error (.config (.noReference owner.name joined.name))
      else .ok (owner.linkedPairs joined pairs) :=
  rfl

theorem requires_resolvePairs (owner joined : Entity) (pairs : List (String × String)) :
    Requires [.link owner joined (owner.linkedPairs joined pairs)]
      (resolvePairs owner joined pairs) := by
  rw [resolvePairs_eq]
  cases owner.linkedPairs joined pairs with
  | nil => exact .here (.link owner joined)
  | cons pair rest => exact List.forall_mem_singleton.2 (List.cons_ne_nil pair rest)

theorem requires_keyEquation (owner joined : Scope) (pair : String × String) :
    Requires (owner.named.pair joined.named pair) (keyEquation owner joined pair) :=
  (joined.requires_column pair.2).bind fun _ _ => (owner.requires_column pair.1).map

end JoinedTable

/-- A join requires a table and a name, pairs to join on, and the fields of these pairs. -/
theorem JoinHead.requires_resolve (owner : Scope) (join : Join) :
    Requires
      ([.table join.plan.entity, .name owner.entity .joinAlias join.shownName,
          .link owner.entity join.plan.entity
            (owner.entity.linkedPairs join.plan.entity join.pairs)] ++
        (owner.entity.linkedPairs join.plan.entity join.pairs).flatMap
          (owner.named.pair ⟨join.plan.entity, some join.shownName⟩))
      (resolve owner join.plan.entity join.plan.tableAlias join.name join.pairs) := by
  change Requires ([_] ++ ([_] ++ ([_] ++ _))) _
  refine join.plan.entity.requires_requireTable.bind fun table required => ?_
  have shown : (join.name.orElse fun _ => join.plan.tableAlias).getD table.name =
      join.shownName := by
    rw [Join.shownName, Entity.requireTable_eq_ok.1 required]
    rfl
  have named : Requires [.name owner.entity .joinAlias join.shownName]
      ((Ident.ofName join.shownName).mapError fun fault =>
        Error.validation (.name owner.entity.name .joinAlias fault)) := by
    cases made : Ident.ofName join.shownName with
    | ok ident => exact List.forall_mem_singleton.2 (Ident.isName_of_ofName made)
    | error fault => exact .here (.name made)
  rw [shown]
  refine named.bind fun joinAlias made => ?_
  have written : joinAlias.name = join.shownName := Ident.name_of_ofName (mapError_eq_ok.1 made)
  refine (JoinedTable.requires_resolvePairs _ _ _).bind fun pairs linked => ?_
  obtain rfl : owner.entity.linkedPairs join.plan.entity join.pairs = pairs := by
    rw [JoinedTable.resolvePairs_eq] at linked
    split_ifs at linked
    exact Except.ok.inj linked
  have inner : Scope.named ⟨join.plan.entity, some joinAlias⟩ =
      ⟨join.plan.entity, some join.shownName⟩ := by
    rw [Scope.named, Option.map_some, written]
  -- The table is known to be there, so that its name with the schema requires nothing.
  have sourced : Requires [] join.plan.entity.qualifiedTable := by
    rw [Entity.qualifiedTable, required]
    exact Requires.ok _
  rw [← inner]
  refine sourced.bind fun source _ => ?_
  exact (Requires.mapM (JoinedTable.requires_keyEquation owner _) _).map

theorem Condition.requirements_between_of_single {scope : NamedScope} {target : Target}
    {bounds : Expr} (single : bounds.isOperandSet = false) :
    (between target bounds).requirements scope =
      target.requirements scope ++ bounds.requirements scope := by
  cases bounds with
  | list items => simp [Expr.isOperandSet] at single
  | _ => simp only [requirements]

mutual

theorem Expr.requires_format (scope : Scope) : ∀ expr : Expr,
    Requires (expr.requirements scope.named) (expr.format scope)
  | .value value => Requires.ok _
  | .list items => by
      simp only [Expr.format, Expr.requirements]
      exact (Expr.requires_formatAll scope items).map
  | .field reference => by
      simp only [Expr.format, Expr.requirements]
      exact (scope.requires_fieldColumn reference).map
  | .column name => by
      simp only [Expr.format, Expr.requirements]
      exact (scope.requires_column name).map
  | .subquery plan => by
      simp only [Expr.format, Expr.requirements]
      exact (Plan.requires_select plan).map
  | .raw _ => Requires.ok _
  | .condition condition => Condition.requires_format scope condition
  | .group connective items => by
      simp only [Expr.format, Expr.requirements]
      exact (Expr.requires_formatAll scope items).map
  | .unbound => Requires.ok _

theorem Expr.requires_formatAll (scope : Scope) : ∀ items : List Expr,
    Requires (Expr.requirementsAll scope.named items) (Expr.formatAll scope items)
  | [] => Requires.ok []
  | item :: rest => by
      simp only [Expr.formatAll, Expr.requirementsAll]
      exact (Expr.requires_format scope item).bind fun _ _ =>
        (Expr.requires_formatAll scope rest).map

theorem Condition.requires_format (scope : Scope) : ∀ condition : Condition,
    Requires (condition.requirements scope.named) (condition.format scope)
  | .nullTest negated target => by
      simp only [Condition.format, Condition.requirements]
      exact (target.requires_format scope).map
  | .compare comparison target operand => by
      simp only [Condition.format, Condition.requirements]
      exact (target.requires_format scope).bind fun _ _ => (Expr.requires_format scope operand).map
  | .between target bounds => by
      have targets := target.requires_format scope
      have single {bounds : Expr} (one : bounds.isOperandSet = false)
          (formatted : Requires (bounds.requirements scope.named) (bounds.format scope)) :
          Requires ((Condition.between target bounds).requirements scope.named)
            ((Condition.between target bounds).format scope) := by
        rw [Condition.format_between_of_single one,
          Condition.requirements_between_of_single one]
        exact targets.bind fun _ _ => formatted.map
      cases bounds with
      | list items =>
          match items with
          | [] =>
              rw [Condition.format_between_nil]
              simp only [Condition.requirements, Expr.requirements, Expr.requirementsAll]
              exact targets.bind fun _ _ => Requires.ok _
          | [low] =>
              rw [Condition.format_between_one]
              simp only [Condition.requirements, Expr.requirements, Expr.requirementsAll,
                List.append_nil]
              exact targets.bind fun _ _ => (Expr.requires_format scope low).map
          | low :: high :: rest =>
              rw [Condition.format_between_two]
              simp only [Condition.requirements, List.append_assoc]
              exact targets.bind fun _ _ => (Expr.requires_format scope low).bind fun _ _ =>
                (Expr.requires_format scope high).map
      | value held =>
          cases held with
          | array items =>
              rw [Condition.format_between_array]
              simp only [Condition.requirements, Expr.requirements]
              exact targets.bind fun _ _ => Requires.ok _
          | _ => exact single rfl (Requires.ok _)
      | _ => exact single rfl (Expr.requires_format scope _)
  | .isIn target choices => by
      have targets := target.requires_format scope
      have single {choices : Expr} (one : choices.isOperandSet = false)
          (formatted : Requires (choices.requirements scope.named) (choices.format scope)) :
          Requires ((Condition.isIn target choices).requirements scope.named)
            ((Condition.isIn target choices).format scope) := by
        rw [Condition.format_isIn_of_single one]
        simp only [Condition.requirements]
        exact targets.bind fun _ _ => formatted.map
      cases choices with
      | list items =>
          rw [Condition.format_isIn_list]
          simp only [Condition.requirements, Expr.requirements]
          exact targets.bind fun _ _ => (Expr.requires_formatAll scope items).map
      | value held =>
          cases held with
          | array items =>
              rw [Condition.format_isIn_array]
              simp only [Condition.requirements, Expr.requirements]
              exact targets.bind fun _ _ => Requires.ok _
          | _ => exact single rfl (Requires.ok _)
      | _ => exact single rfl (Expr.requires_format scope _)
  | .not operand => by
      simp only [Condition.format, Condition.requirements]
      exact (Expr.requires_format scope operand).map
  | .exists operand => by
      simp only [Condition.format, Condition.requirements]
      exact (Expr.requires_format scope operand).map
  | .quantified quantifier target operand => by
      rw [Condition.format_quantified]
      simp only [Condition.requirements]
      exact (requires_quantifiedTarget scope target).bind fun _ _ =>
        (Expr.requires_format scope operand).map
  | .junction connective operand => by
      have single {operand : Expr} (one : operand.isList = false)
          (formatted : Requires (operand.requirements scope.named) (operand.format scope)) :
          Requires ((Condition.junction connective operand).requirements scope.named)
            ((Condition.junction connective operand).format scope) := by
        rw [Condition.format_junction_of_single one]
        simp only [Condition.requirements]
        exact formatted.map
      cases operand with
      | list items =>
          rw [Condition.format_junction_list]
          simp only [Condition.requirements, Expr.requirements]
          exact (Expr.requires_formatAll scope items).map
      | _ => exact single rfl (Expr.requires_format scope _)

theorem ColumnSource.requires_format (scope : Scope) : ∀ source : ColumnSource,
    Requires (source.requirements scope.named) (source.format scope)
  | .field name => by
      simp only [ColumnSource.format, ColumnSource.requirements]
      exact (scope.requires_column name).map
  | .raw _ => Requires.ok _
  | .subquery plan => by
      simp only [ColumnSource.format, ColumnSource.requirements]
      exact (Plan.requires_select plan).map

theorem Column.requires_formatAll (scope : Scope) (join : Option String) :
    ∀ columns : List Column, Requires (Column.requirementsAll scope.named join columns)
      (Column.formatAll scope join columns)
  | [] => Requires.ok []
  | ⟨name, source⟩ :: rest => by
      simp only [Column.formatAll, Column.format, Column.requirementsAll]
      refine ((ColumnSource.requires_format scope source).bind fun shown _ => ?_).bind fun _ _ =>
        (Column.requires_formatAll scope join rest).map
      exact OutputColumn.requires_ofSource scope _ source shown

theorem Join.requires_formatAll (owner : Scope) : ∀ joins : List Join,
    Requires (Join.requirementsAll owner.named joins) (Join.formatAll owner joins)
  | [] => Requires.ok []
  | ⟨kind, ⟨entity, tableAlias, columns, filter, having, settings, joins⟩, name, pairs⟩ :: rest =>
      by
      let join : Join :=
        ⟨kind, ⟨entity, tableAlias, columns, filter, having, settings, joins⟩, name, pairs⟩
      simp only [Join.formatAll, Join.format_eq, Join.requirementsAll]
      refine Requires.bind ?_ fun _ _ => (Join.requires_formatAll owner rest).map
      have resolving := JoinHead.requires_resolve owner join
      rw [List.append_assoc]
      refine resolving.bind fun head resolved => ?_
      have inner : (head.scope entity).named = ⟨entity, some join.shownName⟩ := by
        rw [JoinHead.scope, Scope.named, Option.map_some, JoinHead.joinAlias_of_resolve resolved,
          JoinHead.name_of_resolve resolved]
      have headName : head.name = join.shownName := JoinHead.name_of_resolve resolved
      have filtered := Expr.requires_formatAll (head.scope entity) filter
      have shown := Column.requires_formatAll (head.scope entity) (some head.name) columns
      rw [inner] at filtered shown
      rw [headName] at shown ⊢
      exact filtered.bind fun _ _ => shown.map

theorem Plan.requires_select : ∀ plan : Plan, Requires plan.requirements plan.select
  | ⟨entity, tableAlias, columns, filter, having, settings, joins⟩ => by
      simp only [Plan.select, Plan.requirements, List.append_assoc]
      refine (Scope.requires_ofNames entity tableAlias).bind fun scope resolved => ?_
      have named := Scope.named_of_ofNames resolved
      have own : scope.entity = entity := congrArg NamedScope.entity named
      rw [← named]
      refine (Column.requires_formatAll scope none columns).bind fun _ _ => ?_
      refine (Join.requires_formatAll scope joins).bind fun _ _ => ?_
      rw [← own]
      refine scope.requires_source.bind fun _ _ => ?_
      refine (Expr.requires_formatAll scope filter).bind fun _ _ => ?_
      refine (Clause.requires_groupBy scope settings).bind fun _ _ => ?_
      refine (Expr.requires_formatAll scope having).bind fun _ _ => ?_
      refine (Clause.requires_orderBy scope settings).bind fun _ _ => ?_
      exact (Clause.requires_locking settings.locking).map

end

/-- The SELECT statement of a query can be formatted exactly if everything that it looks up is there
and every name that it writes is one; if not, the first thing amiss says which error there is, and
it is never that a condition lacks a value.  Bounds past the second are not read, and neither is
what a joined query has besides its entity, its alias, its columns and its filter. -/
theorem Query.exists_select_iff (query : Query) :
    ((∃ statement, query.plan.select = .ok statement) ↔
        ∀ requirement ∈ query.plan.requirements, requirement.IsMet) ∧
      (∀ error, query.plan.select = .error error →
        Requirement.FirstRaises query.plan.requirements error ∧
          ∀ fault, error ≠ .invalidCondition fault) ∧
      (∀ (scope : Scope) (target : Target) (low high : Expr) (rest : List Expr),
        (Condition.between target (.list (low :: high :: rest))).format scope =
          (Condition.between target (.list [low, high])).format scope) ∧
      ∀ (owner : Scope) (kind : JoinKind) (joined : Plan) (name : Option String)
        (pairs : List (String × String)) (having : List Expr) (settings : PlanSettings)
        (joins : List Join),
        Join.format owner ⟨kind, { joined with having, settings, joins }, name, pairs⟩ =
          Join.format owner ⟨kind, joined, name, pairs⟩ := by
  have requires := Plan.requires_select query.plan
  refine ⟨requires.exists_ok_iff, ?errors, ?bounds, ?joined⟩
  case errors =>
    intro error failed
    have raised := requires.firstRaises failed
    refine ⟨raised, ?_⟩
    rintro fault rfl
    obtain ⟨requirement, -, raising⟩ := raised.exists_mem
    cases raising
  case bounds =>
    intro scope target low high rest
    rw [Condition.format_between_two, Condition.format_between_two]
  case joined =>
    intro owner kind joined name pairs having settings joins
    cases joined
    simp only [Join.format]

end EntityQuery

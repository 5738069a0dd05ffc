import EntityQuery.Proofs.Options.Defaults
import EntityQuery.Query

/-!
# The plan of a query

Every option of a query is settled on its own: by the options of the query or, where these leave it
unset, by its defaults.  A plan consists of what is settled, with unset lists empty and unset flags
off.  Only the columns differ, for a query that lists none selects all fields of its entity.
-/

namespace EntityQuery.Query

/-- What an option of the query is settled to, if it is set at all. -/
def setting? (query : Query) (name : OptionName) : Option name.Held :=
  (query.options.held? name).or (query.defaults.bind fun defaults => defaults.held? name)

/-- The columns that the query selects: the ones it lists, or every field of its entity in order,
under its own name. -/
inductive Selects (query : Query) : List Column → Prop
  | listed {columns : List Column} :
      query.setting? (.list .fields) = some columns → Selects query columns
  | unlisted : query.setting? (.list .fields) = none →
      Selects query (query.entity.fields.map fun field => ⟨field.name, .field field.name⟩)

theorem held?_effectiveOptions (query : Query) (name : OptionName) :
    query.effectiveOptions.held? name = query.setting? name := by
  unfold effectiveOptions setting?
  cases query.defaults with
  | none => rw [Option.bind_none, Option.or_none]
  | some defaults => exact Options.held?_withDefaults query.options defaults name

theorem columns_entity (entity : Entity) : entity.columns =
    entity.fields.map fun field => ⟨field.name, .field field.name⟩ := by
  unfold Entity.columns Entity.fieldNames
  rw [List.map_map]
  rfl

/-- The plan of a query is made of what its options are settled to, and of nothing else. -/
theorem plan_eq (query : Query) : query.plan =
    { entity := query.entity
      tableAlias := query.tableAlias
      columns := (query.setting? (.list .fields)).getD
        (query.entity.fields.map fun field => ⟨field.name, .field field.name⟩)
      filter := (query.setting? (.list .filter)).getD []
      having := (query.setting? (.list .having)).getD []
      settings :=
        { groupBy := (query.setting? (.list .groupBy)).getD []
          orderBy := (query.setting? (.list .orderBy)).getD []
          limit := query.setting? (.count .limit)
          offset := query.setting? (.count .offset)
          distinct := (query.setting? (.flag .distinct)).getD false
          locking :=
            { forUpdate := (query.setting? (.flag .forUpdate)).getD false
              forShare := (query.setting? (.flag .forShare)).getD false
              tables := (query.setting? (.list .lockedTables)).getD []
              noWait := (query.setting? (.flag .noWait)).getD false
              skipLocked := (query.setting? (.flag .skipLocked)).getD false }
          batchSize := query.setting? (.count .batchSize)
          first := (query.setting? (.flag .first)).getD false
          require := (query.setting? (.flag .require)).getD false
          debug := (query.setting? (.flag .debug)).getD false }
      joins := query.joins } := by
  simp only [← held?_effectiveOptions, ← columns_entity]
  rfl

theorem selects_plan (query : Query) : query.Selects query.plan.columns := by
  rw [plan_eq]
  cases settled : query.setting? (.list .fields) with
  | none => exact .unlisted settled
  | some columns => exact .listed settled

end EntityQuery.Query

import EntityQuery.Proofs.Schema.Registered
import EntityQuery.Proofs.Statement.Resolution
import EntityQuery.Query

/-!
# Joinable references

A join without pairs of its own is on the fields that references link.  In a schema that is built
every reference leads to a field, so a reference in either direction is enough to join two entities,
once they have tables and their fields have names that can stand in an alias.
-/

namespace EntityQuery

open Outcome

namespace Entity

/-- A field of the entity refers to the other entity. -/
def RefersTo (entity target : Entity) : Prop :=
  ∃ field ∈ entity.fields, ∃ reference ∈ field.reference, reference.entity = target.name

/-- The entity has a table, and no field has a name with a null character. -/
structure IsSelectable (entity : Entity) : Prop where
  tabled : entity.table ≠ none
  clean : ∀ name ∈ entity.fieldNames, '\x00' ∉ name.toList

variable {entity target : Entity}

theorem mem_referencesTo {pair : String × String} :
    pair ∈ referencesTo entity target ↔ ∃ field ∈ entity.fields, ∃ reference ∈ field.reference,
      reference.entity = target.name ∧ (field.name, reference.field) = pair := by
  rw [referencesTo, List.mem_filterMap]
  refine exists_congr fun field => and_congr_right fun _ => ?_
  cases held : field.reference with
  | none => simp
  | some reference => simp

theorem referencesTo_ne_nil (refers : entity.RefersTo target) :
    referencesTo entity target ≠ [] := by
  obtain ⟨field, member, reference, held, named⟩ := refers
  exact List.ne_nil_of_mem (mem_referencesTo.2 ⟨field, member, reference, held, named, rfl⟩)

theorem referencePairs_ne_nil (refers : entity.RefersTo target ∨ target.RefersTo entity) :
    referencePairs entity target ≠ [] := by
  unfold referencePairs
  dsimp only
  split_ifs with none
  · rcases refers with forward | backward
    · exact absurd (List.isEmpty_iff.1 none) (referencesTo_ne_nil forward)
    · simpa using referencesTo_ne_nil backward
  · exact fun empty => none (List.isEmpty_iff.2 empty)

end Entity

namespace Registry

variable {registry : Registry} {first second : Entity} {pair : String × String}

/-- A reference leads from a field of the entity to a field of the other one. -/
theorem Resolves.mem_of_referencesTo (resolves : registry.Resolves)
    (distinct : (registry.entities.map Entity.name).Nodup) (own : first ∈ registry.entities)
    (other : second ∈ registry.entities) (linked : pair ∈ referencesTo first second) :
    pair.1 ∈ first.fieldNames ∧ pair.2 ∈ second.fieldNames := by
  obtain ⟨field, member, reference, held, named, rfl⟩ := Entity.mem_referencesTo.1 linked
  obtain ⟨target, found, known⟩ := resolves first own field member reference held
  rw [named, find?_of_mem distinct other] at found
  obtain rfl := Option.some.inj found
  exact ⟨List.mem_map_of_mem member, known⟩

theorem Resolves.mem_of_referencePairs (resolves : registry.Resolves)
    (distinct : (registry.entities.map Entity.name).Nodup) (own : first ∈ registry.entities)
    (other : second ∈ registry.entities) (linked : pair ∈ referencePairs first second) :
    pair.1 ∈ first.fieldNames ∧ pair.2 ∈ second.fieldNames := by
  unfold referencePairs at linked
  dsimp only at linked
  split_ifs at linked
  · obtain ⟨backward, member, rfl⟩ := List.mem_map.1 linked
    exact (resolves.mem_of_referencesTo distinct other own member).symm
  · exact resolves.mem_of_referencesTo distinct own other linked

end Registry

namespace Requirement

variable {scope : NamedScope}

theorem isMet_of_column {name : String} (known : name ∈ scope.entity.fieldNames)
    (qualified : ∀ requirement ∈ scope.qualifier, requirement.IsMet) :
    ∀ requirement ∈ scope.column name, requirement.IsMet :=
  List.forall_mem_cons.2 ⟨known, qualified⟩

/-- The fields of an entity can be selected where they can be qualified and their aliases can be
written. -/
theorem isMet_of_fields {join : Option String} {names : List String}
    (known : ∀ name ∈ names, name ∈ scope.entity.fieldNames)
    (qualified : ∀ requirement ∈ scope.qualifier, requirement.IsMet)
    (labelled : ∀ name ∈ names, ∀ requirement ∈
      scope.outputAlias ((Column.ofField name).aliasIn join) (.field name), requirement.IsMet) :
    ∀ requirement ∈ Column.requirementsAll scope join (names.map Column.ofField),
      requirement.IsMet := by
  induction names with
  | nil => exact List.forall_mem_nil _
  | cons name rest ih =>
      obtain ⟨nameKnown, restKnown⟩ := List.forall_mem_cons.1 known
      obtain ⟨nameLabelled, restLabelled⟩ := List.forall_mem_cons.1 labelled
      refine List.forall_mem_append.2 ⟨List.forall_mem_append.2 ⟨?_, nameLabelled⟩, ?_⟩
      · exact isMet_of_column nameKnown qualified
      · exact ih restKnown restLabelled

end Requirement

theorem Ident.isName (ident : Ident) : IsName ident.name :=
  ⟨fun empty => ident.notEmpty (String.toList_eq_nil_iff.2 empty), ident.withoutNul⟩

/-- An alias behind the name of a join is a name if it has no null character. -/
theorem Ident.isName_behind (ident : Ident) {name : String} (clean : '\x00' ∉ name.toList) :
    IsName (ident.name ++ "." ++ name) := by
  refine ⟨by simp, fun member => ?_⟩
  rw [String.toList_append, String.toList_append, List.mem_append, List.mem_append] at member
  rcases member with (own | dot) | behind
  · exact ident.withoutNul own
  · exact absurd dot (by decide)
  · exact clean behind

/-- A query joined with nothing set requires its table, its name, pairs, and its fields. -/
theorem Join.requirementsAll_joinAs (owner : NamedScope) (kind : JoinKind) (joined : Entity)
    {shown : String} (named : (Query.joinAs kind (Query.on joined)).shownName = shown) :
    requirementsAll owner [Query.joinAs kind (Query.on joined)] =
      [.table joined, .name owner.entity .joinAlias shown,
          .link owner.entity joined (referencePairs owner.entity joined)] ++
        (referencePairs owner.entity joined).flatMap (owner.pair ⟨joined, some shown⟩) ++
        Column.requirementsAll ⟨joined, some shown⟩ (some shown) joined.columns := by
  subst named
  have whole : requirementsAll owner [Query.joinAs kind (Query.on joined)] =
      _ ++ _ ++ [] ++ _ ++ [] := rfl
  rw [whole, List.append_nil, List.append_nil]
  rfl

/-- A query with nothing but joins requires its fields, its joins and its table. -/
theorem Query.requirements_join (owner : Entity) (join : Join) :
    ((Query.on owner).join join).plan.requirements =
      Column.requirementsAll ⟨owner, none⟩ none owner.columns ++
        Join.requirementsAll ⟨owner, none⟩ [join] ++ [.table owner] := by
  have whole : ((Query.on owner).join join).plan.requirements =
      [] ++ _ ++ _ ++ [.table owner] ++ [] ++ [] ++ [] ++ [] ++ [] := rfl
  rw [whole, List.append_nil, List.append_nil, List.append_nil, List.append_nil,
    List.append_nil, List.nil_append]
  rfl

/-- Two entities with a pair to join on can be joined in a query with nothing else set. -/
theorem Query.exists_select_of_pairs {owner joined : Entity} (selectable : owner.IsSelectable)
    (joinable : joined.IsSelectable) (linked : referencePairs owner joined ≠ [])
    (known : ∀ pair ∈ referencePairs owner joined,
      pair.1 ∈ owner.fieldNames ∧ pair.2 ∈ joined.fieldNames) (kind : JoinKind) :
    ∃ statement, ((Query.on owner).join (Query.joinAs kind (Query.on joined))).plan.select =
      .ok statement := by
  obtain ⟨table, tabled⟩ := Option.ne_none_iff_exists'.1 joinable.tabled
  have named : (Query.joinAs kind (Query.on joined)).shownName = table.name := by
    change ((joined.table.map Ident.name).getD "") = table.name
    rw [tabled]
    rfl
  refine (Plan.requires_select _).exists_ok_iff.2 ?_
  rw [Query.requirements_join, Join.requirementsAll_joinAs _ kind joined named]
  have ownTable : ∀ requirement ∈ [Requirement.table owner], requirement.IsMet :=
    List.forall_mem_singleton.2 selectable.tabled
  have ownColumns : ∀ requirement ∈ Column.requirementsAll ⟨owner, none⟩ none owner.columns,
      requirement.IsMet :=
    Requirement.isMet_of_fields (fun _ => id) ownTable fun name _ => by
      simp [NamedScope.outputAlias, Column.aliasIn, Column.ofField]
  have head : ∀ requirement ∈ [.table joined, .name owner .joinAlias table.name,
      .link owner joined (referencePairs owner joined)], Requirement.IsMet requirement :=
    List.forall_mem_cons.2 ⟨joinable.tabled, List.forall_mem_cons.2
      ⟨table.isName, List.forall_mem_singleton.2 linked⟩⟩
  have pairs : ∀ requirement ∈ (referencePairs owner joined).flatMap
      (NamedScope.pair ⟨owner, none⟩ ⟨joined, some table.name⟩), requirement.IsMet := by
    refine List.forall_mem_flatMap.2 fun pair member => List.forall_mem_append.2 ⟨?_, ?_⟩
    · exact Requirement.isMet_of_column (known pair member).2 (List.forall_mem_nil _)
    · exact Requirement.isMet_of_column (known pair member).1 ownTable
  have joinedColumns : ∀ requirement ∈ Column.requirementsAll ⟨joined, some table.name⟩
      (some table.name) joined.columns, requirement.IsMet := by
    refine Requirement.isMet_of_fields (fun _ => id) (List.forall_mem_nil _) fun name member => ?_
    unfold NamedScope.outputAlias
    dsimp only
    split_ifs
    · exact List.forall_mem_nil _
    · exact List.forall_mem_singleton.2 (table.isName_behind (joinable.clean name member))
  simp only [List.forall_mem_append]
  exact ⟨⟨ownColumns, ⟨head, pairs⟩, joinedColumns⟩, ownTable⟩

namespace Schema

/-- In a schema that is built, entities have distinct names and stand in the order in which they are
written, after their parents, and every reference leads to a field.  Two of its entities with a
reference between them, in either direction, have pairs of fields to join on, and can be joined. -/
theorem joinable_of_build {written : Written} {schema : Schema}
    (built : written.build = .ok schema) :
    (schema.registry.entities.map Entity.name).Nodup ∧
      schema.registry.entities.map Entity.name = written.entities.map WrittenEntity.name ∧
      (∀ before entity after, written.entities = before ++ entity :: after →
        ∀ parent ∈ entity.parent, parent ∈ before.map WrittenEntity.name) ∧
      (∀ entity ∈ schema.registry.entities, ∀ field ∈ entity.fields,
        ∀ reference ∈ field.reference, ∃ target ∈ schema.registry.entities,
          target.name = reference.entity ∧ reference.field ∈ target.fieldNames) ∧
      ∀ first ∈ schema.registry.entities, ∀ second ∈ schema.registry.entities,
        first.IsSelectable → second.IsSelectable →
        first.RefersTo second ∨ second.RefersTo first →
        referencePairs first second ≠ [] ∧
          (∀ pair ∈ referencePairs first second,
            pair.1 ∈ first.fieldNames ∧ pair.2 ∈ second.fieldNames) ∧
          ∀ kind, ∃ statement,
            ((Query.on first).join (Query.joinAs kind (Query.on second))).plan.select =
              .ok statement := by
  obtain ⟨extended, resolves⟩ := of_build built
  have distinct := extended.distinct List.nodup_nil
  refine ⟨distinct, extended.names, extended.parents, ?_, ?_⟩
  · intro entity member field fieldMember reference held
    obtain ⟨target, found, known⟩ := resolves entity member field fieldMember reference held
    obtain ⟨targetMember, named⟩ := Registry.mem_of_find? found
    exact ⟨target, targetMember, named, known⟩
  · intro first own second other selectable joinable refers
    have linked := Entity.referencePairs_ne_nil refers
    have known : ∀ pair ∈ referencePairs first second,
        pair.1 ∈ first.fieldNames ∧ pair.2 ∈ second.fieldNames :=
      fun _ member => resolves.mem_of_referencePairs distinct own other member
    exact ⟨linked, known, Query.exists_select_of_pairs selectable joinable linked known⟩

end Schema

namespace Sample

/-- Authors, and books that extend them by a reference to one. -/
def library : Schema.Written where
  defaults := []
  entities :=
    [⟨"Author", some "author", none, none, none,
        [⟨"number", some "integer", none, true, false, true, none⟩]⟩,
      ⟨"Book", some "book", none, some "snake_case", some "Author",
        [⟨"authorNumber", some "integer", none, false, false, false, some "Author.number"⟩]⟩]

def author : Entity :=
  ⟨0, "Author", some ⟨"author", by decide, by decide⟩, none, .identity,
    [⟨"number", ⟨"number", by decide, by decide⟩, .integer, true, false, true, none⟩]⟩

def book : Entity :=
  ⟨1, "Book", some ⟨"book", by decide, by decide⟩, none, .snakeCase,
    author.fields ++ [⟨"authorNumber", ⟨"author_number", by decide, by decide⟩, .integer, false,
      false, false, some ⟨"Author", "number"⟩⟩]⟩

end Sample

/-- The reference of books to authors joins authors to books. -/
theorem Schema.joinable_of_library :
    Sample.library.build = .ok ⟨⟨[Sample.author, Sample.book]⟩, .unset⟩ ∧
      Sample.author.IsSelectable ∧ Sample.book.IsSelectable ∧
      Sample.book.RefersTo Sample.author ∧
      referencePairs Sample.author Sample.book = [("number", "authorNumber")] ∧
      ∀ kind, ∃ statement, ((Query.on Sample.author).join
        (Query.joinAs kind (Query.on Sample.book))).plan.select = .ok statement := by
  have built : Sample.library.build = .ok ⟨⟨[Sample.author, Sample.book]⟩, .unset⟩ := rfl
  have selectable : Sample.author.IsSelectable := ⟨nofun, by decide⟩
  have joinable : Sample.book.IsSelectable := ⟨nofun, by decide⟩
  have refers : Sample.book.RefersTo Sample.author :=
    ⟨_, List.mem_of_getElem? (i := 1) rfl, ⟨"Author", "number"⟩, rfl, rfl⟩
  obtain ⟨-, -, -, -, joined⟩ := Schema.joinable_of_build built
  obtain ⟨-, -, selected⟩ := joined Sample.author (.head _) Sample.book (.tail _ (.head _))
    selectable joinable (.inr refers)
  exact ⟨built, selectable, joinable, refers, rfl, selected⟩

end EntityQuery

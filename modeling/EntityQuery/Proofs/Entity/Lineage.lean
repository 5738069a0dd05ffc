import EntityQuery.Proofs.Entity.Names
import EntityQuery.Proofs.Row.Columns
import Mathlib.Data.List.Induction

/-!
# Lines of entities

An entity is built by a row of calls: on a new declaration, or on one that starts with everything of
a parent.  Down a line of entities, each extending the one before, the fields of the last one are
the fields declared along the line.  A field stands where its name was declared first and is what
was declared under its name last, with the column that the entity it was declared for gives it.
-/

namespace EntityQuery

open Outcome

namespace FieldDeclaration

/-- The field with its column: the given one, else the one that the strategy names. -/
def settled (naming : NamingStrategy) (field : FieldDeclaration) : FieldDeclaration :=
  { field with column := some (field.column.getD (naming.columnFor field.name)) }

/-- What is declared last under a name. -/
def last? (fields : List FieldDeclaration) (name : String) : Option FieldDeclaration :=
  fields.reverse.find? fun field => field.name == name

end FieldDeclaration

/-- A call that shapes a declaration. -/
inductive DeclarationStep
  | declare (field : FieldDeclaration)
  | table (name : String)
  | schema (name : String)
  | naming (strategy : NamingStrategy)

namespace DeclarationStep

def field? : DeclarationStep → Option FieldDeclaration
  | .declare field => some field
  | _ => none

/-- The strategy after a call. -/
def namingAfter (naming : NamingStrategy) : DeclarationStep → NamingStrategy
  | .naming strategy => strategy
  | _ => naming

end DeclarationStep

namespace EntityDeclaration

/-- The declaration after a call. -/
def after (declaration : EntityDeclaration) : DeclarationStep → EntityDeclaration
  | .declare field => declaration.addField field
  | .table name => { declaration with table := some name }
  | .schema name => { declaration with schema := some name }
  | .naming strategy => { declaration with naming := strategy }

/-- The fields after several were declared in turn. -/
def declareAll (fields added : List FieldDeclaration) : List FieldDeclaration :=
  added.foldl (fun fields field => declareIn field fields) fields

end EntityDeclaration

/-- What an entity is built by: its name, and calls in turn. -/
structure EntityBuilder where
  name : String
  steps : List DeclarationStep

namespace EntityBuilder

/-- The declaration after all calls, on a new declaration or on that of a child. -/
def declaration (builder : EntityBuilder) (parent : Option Entity) : EntityDeclaration :=
  builder.steps.foldl EntityDeclaration.after
    (parent.elim (.named builder.name) fun parent => parent.extend builder.name)

/-- The fields that the calls declare. -/
def fields (builder : EntityBuilder) : List FieldDeclaration :=
  builder.steps.filterMap DeclarationStep.field?

def fieldNames (builder : EntityBuilder) : List String := builder.fields.map FieldDeclaration.name

/-- The strategy of the entity: the one that is set last, wherever among the fields, else the
inherited one. -/
def naming (builder : EntityBuilder) (inherited : NamingStrategy) : NamingStrategy :=
  builder.steps.foldl DeclarationStep.namingAfter inherited

end EntityBuilder

/-- A line of entities down to this one has declared these fields, each with the column that the
strategy of its own entity gives it. -/
inductive Lineage : List FieldDeclaration → Entity → Prop
  | root {builder : EntityBuilder} {identity : Nat} {entity : Entity}
      (built : (builder.declaration none).build identity = .ok entity) :
      Lineage (builder.fields.map (·.settled (builder.naming .identity))) entity
  | extend {declared : List FieldDeclaration} {parent : Entity} (line : Lineage declared parent)
      {builder : EntityBuilder} {identity : Nat} {entity : Entity}
      (built : (builder.declaration (some parent)).build identity = .ok entity) :
      Lineage (declared ++ builder.fields.map (·.settled (builder.naming parent.naming))) entity

namespace FieldDeclaration

variable {field : FieldDeclaration} {naming : NamingStrategy}

theorem last?_append (front back : List FieldDeclaration) (name : String) :
    last? (front ++ back) name = (last? back name).or (last? front name) := by
  rw [last?, List.reverse_append, List.find?_append]
  rfl

theorem last?_map_settled (fields : List FieldDeclaration) (name : String) :
    last? (fields.map (settled naming)) name = (last? fields name).map (settled naming) := by
  rw [last?, ← List.map_reverse, List.find?_map]
  rfl

theorem last?_eq_none_iff {fields : List FieldDeclaration} {name : String} :
    last? fields name = none ↔ name ∉ fields.map FieldDeclaration.name := by
  simp [last?]

/-- A field that resolves has a name, and declared again it is the settled one. -/
theorem of_resolve {owner : String} {resolved : Field}
    (given : field.resolve owner naming = .ok resolved) :
    field.name ≠ "" ∧ resolved.toDeclaration = field.settled naming := by
  unfold resolve at given
  split_ifs at given with unnamed
  refine ⟨unnamed, ?_⟩
  split at given
  case h_1 => exact nomatch given
  case h_2 named =>
      rw [← Except.ok.inj given, Field.toDeclaration, Ident.name_of_ofName named]
      rfl

end FieldDeclaration

namespace Field

variable {field : Field}

theorem resolve_toDeclaration (owner : String) (naming : NamingStrategy) (named : field.name ≠ "") :
    field.toDeclaration.resolve owner naming = .ok field := by
  have declared : field.toDeclaration.name ≠ "" := named
  have column : Ident.ofName (field.toDeclaration.column.getD
      (naming.columnFor field.toDeclaration.name)) = .ok field.column :=
    Ident.ofName_name field.column
  rw [FieldDeclaration.resolve, if_neg declared, column]
  rfl

theorem toDeclaration_injective : Function.Injective toDeclaration := by
  intro field other same
  obtain ⟨name, ⟨column, _, _⟩, type, primary, unique, required, reference⟩ := field
  obtain ⟨otherName, ⟨otherColumn, _, _⟩, _⟩ := other
  unfold toDeclaration at same
  simp_all

end Field

theorem Entity.map_field? (entity : Entity) (name : String) :
    (entity.field? name).map Field.toDeclaration =
      (entity.fields.map Field.toDeclaration).find? fun field => field.name == name := by
  rw [Entity.field?, List.find?_map]
  rfl

namespace EntityDeclaration

variable {fields : List FieldDeclaration} {declaration : EntityDeclaration} {entity : Entity}

theorem declareAll_append (fields front back : List FieldDeclaration) :
    declareAll fields (front ++ back) = declareAll (declareAll fields front) back :=
  List.foldl_append

/-- Fields with columns stay so, whichever strategy settles the added ones. -/
theorem map_settled_declareIn (naming : NamingStrategy) (field : FieldDeclaration) :
    (declareIn field fields).map (·.settled naming) =
      declareIn (field.settled naming) (fields.map (·.settled naming)) := by
  induction fields with
  | nil => rfl
  | cons declared rest ih =>
      by_cases same : declared.name = field.name
      · have settledSame : (declared.settled naming).name = (field.settled naming).name := same
        rw [List.map_cons, declareIn, declareIn, if_pos same, if_pos settledSame, List.map_cons]
      · have settledApart : (declared.settled naming).name ≠ (field.settled naming).name := same
        rw [List.map_cons, declareIn, declareIn, if_neg same, if_neg settledApart, List.map_cons,
          ih]

theorem map_settled_declareAll (naming : NamingStrategy) (added : List FieldDeclaration) :
    (declareAll fields added).map (·.settled naming) =
      declareAll (fields.map (·.settled naming)) (added.map (·.settled naming)) := by
  induction added generalizing fields with
  | nil => rfl
  | cons field rest ih =>
      rw [List.map_cons, declareAll, List.foldl_cons]
      refine ih.trans ?_
      rw [map_settled_declareIn]
      rfl

/-- One more field is found under its name, and any other as before. -/
theorem find?_declareIn (field : FieldDeclaration) (name : String) :
    ((declareIn field fields).find? fun declared => declared.name == name) =
      if field.name = name then some field
      else fields.find? fun declared => declared.name == name := by
  induction fields with
  | nil =>
      rw [declareIn, List.find?_cons]
      split_ifs with own
      · rw [beq_iff_eq.2 own]
      · rw [beq_false_of_ne own]
  | cons declared rest ih =>
      rw [declareIn]
      split_ifs with replaced own own
      · rw [List.find?_cons, beq_iff_eq.2 own]
      · rw [List.find?_cons, List.find?_cons, replaced, beq_false_of_ne own]
      · rw [List.find?_cons, ih, if_pos own, beq_false_of_ne (own ▸ replaced)]
      · rw [List.find?_cons, ih, if_neg own, List.find?_cons]

theorem find?_declareAll (added : List FieldDeclaration) (name : String) :
    ((declareAll fields added).find? fun declared => declared.name == name) =
      (FieldDeclaration.last? added name).or
        (fields.find? fun declared => declared.name == name) := by
  induction added generalizing fields with
  | nil => rfl
  | cons field rest ih =>
      rw [declareAll, List.foldl_cons]
      refine ih.trans ?_
      rw [find?_declareIn, ← List.singleton_append, FieldDeclaration.last?_append, Option.or_assoc]
      congr 1
      rw [FieldDeclaration.last?, List.reverse_singleton, List.find?_cons]
      split_ifs with own
      · rw [beq_iff_eq.2 own]
        rfl
      · rw [beq_false_of_ne own]
        rfl

/-- A name that is there already keeps its place; a new one comes last. -/
theorem map_name_declareIn {before : List String} (field : FieldDeclaration)
    (names : fields.map FieldDeclaration.name = before.eraseDups) :
    (declareIn field fields).map FieldDeclaration.name = (before ++ [field.name]).eraseDups := by
  have placed : (declareIn field fields).map FieldDeclaration.name =
      if field.name ∈ fields.map FieldDeclaration.name then fields.map FieldDeclaration.name
      else fields.map FieldDeclaration.name ++ [field.name] := by
    clear names
    induction fields with
    | nil => rfl
    | cons declared rest ih =>
        rw [declareIn]
        by_cases same : declared.name = field.name
        · rw [if_pos same, List.map_cons, List.map_cons, same, if_pos List.mem_cons_self]
        · have later : field.name ∈ declared.name :: rest.map FieldDeclaration.name ↔
              field.name ∈ rest.map FieldDeclaration.name :=
            List.mem_cons.trans (or_iff_right (Ne.symm same))
          rw [if_neg same, List.map_cons, List.map_cons, ih]
          simp only [later]
          split_ifs <;> rfl
  rw [placed, names]
  by_cases present : field.name ∈ before
  · rw [if_pos (List.mem_eraseDups.2 present), eraseDups_concat_of_mem present]
  · rw [if_neg (mt List.mem_eraseDups.1 present), eraseDups_concat_of_absent present]

/-- Names are in the order in which they were declared first. -/
theorem map_name_declareAll (added : List FieldDeclaration) :
    (declareAll [] added).map FieldDeclaration.name =
      (added.map FieldDeclaration.name).eraseDups := by
  induction added using List.reverseRecOn with
  | nil => rfl
  | append_singleton front field ih =>
      rw [declareAll_append, List.map_append]
      exact map_name_declareIn field ih

theorem nodup_declareAll (distinct : (fields.map FieldDeclaration.name).Nodup)
    (added : List FieldDeclaration) :
    ((declareAll fields added).map FieldDeclaration.name).Nodup := by
  induction added generalizing fields with
  | nil => exact distinct
  | cons field rest ih => exact ih (nodup_declareIn field distinct)

theorem of_foldl_after (steps : List DeclarationStep) :
    (steps.foldl after declaration).name = declaration.name ∧
      (steps.foldl after declaration).naming =
        steps.foldl DeclarationStep.namingAfter declaration.naming ∧
      (steps.foldl after declaration).fields =
        declareAll declaration.fields (steps.filterMap DeclarationStep.field?) := by
  induction steps generalizing declaration with
  | nil => exact ⟨rfl, rfl, rfl⟩
  | cons step rest ih =>
      obtain ⟨named, strategy, fields⟩ := @ih (declaration.after step)
      refine ⟨named.trans ?_, strategy.trans ?_, fields.trans ?_⟩ <;> cases step <;> rfl

/-- The fields of an entity are those of its declaration, settled by its strategy. -/
theorem settled_of_build {identity : Nat} (built : declaration.build identity = .ok entity) :
    entity.naming = declaration.naming ∧
      entity.fields.map Field.toDeclaration =
        declaration.fields.map (·.settled declaration.naming) ∧
      ∀ name ∈ entity.fieldNames, name ≠ "" := by
  have resolved := (of_build built).2
  refine ⟨?_, ?_, ?_⟩
  · unfold build at built
    split_ifs at built
    obtain ⟨_, -, schemed⟩ := bind_eq_ok.1 built
    obtain ⟨_, -, fielded⟩ := bind_eq_ok.1 schemed
    obtain ⟨_, -, whole⟩ := bind_eq_ok.1 fielded
    rw [← pure_eq_ok.1 whole]
  · have settled : List.Forall₂ Eq (entity.fields.map Field.toDeclaration)
        (declaration.fields.map (·.settled declaration.naming)) := by
      rw [List.forall₂_map_left_iff, List.forall₂_map_right_iff]
      exact resolved.flip.imp fun _ _ given => (FieldDeclaration.of_resolve given).2
    rwa [List.forall₂_eq_eq_eq] at settled
  · have named := ((List.forall₂_and_left _ _).1 (resolved.imp fun _ _ given =>
      And.intro (FieldDeclaration.of_resolve given).1 given)).1
    rw [fieldNames_of_build built]
    exact List.forall_mem_map.2 named

end EntityDeclaration

namespace EntityBuilder

variable {builder : EntityBuilder} {parent entity : Entity} {identity : Nat}

/-- The fields that a declaration starts with stay as they are, if they all have columns; then come
those that the calls declare, with the columns that the strategy after all calls gives them. -/
theorem fields_of_build (start : EntityDeclaration)
    (given : start.fields.map (·.settled (builder.naming start.naming)) = start.fields)
    (built : (builder.steps.foldl EntityDeclaration.after start).build identity = .ok entity) :
    entity.naming = builder.naming start.naming ∧
      entity.fields.map Field.toDeclaration = EntityDeclaration.declareAll start.fields
        (builder.fields.map (·.settled (builder.naming start.naming))) := by
  obtain ⟨-, strategy, fields⟩ := @EntityDeclaration.of_foldl_after start builder.steps
  obtain ⟨kept, settled, -⟩ := EntityDeclaration.settled_of_build built
  refine ⟨kept.trans strategy, settled.trans ?_⟩
  rw [strategy, fields]
  refine (EntityDeclaration.map_settled_declareAll _ _).trans ?_
  exact congrArg (EntityDeclaration.declareAll · _) given

theorem fields_of_root (built : (builder.declaration none).build identity = .ok entity) :
    entity.fields.map Field.toDeclaration = EntityDeclaration.declareAll []
      (builder.fields.map (·.settled (builder.naming .identity))) :=
  (fields_of_build (.named builder.name) rfl built).2

theorem fields_of_extend (built : (builder.declaration (some parent)).build identity = .ok entity) :
    entity.naming = builder.naming parent.naming ∧
      entity.fields.map Field.toDeclaration =
        EntityDeclaration.declareAll (parent.fields.map Field.toDeclaration)
          (builder.fields.map (·.settled (builder.naming parent.naming))) :=
  fields_of_build (parent.extend builder.name) List.map_map built

/-- A child has the fields of its parent that its calls do not declare, and the others as its calls
declare them last. -/
theorem map_field?_of_extend
    (built : (builder.declaration (some parent)).build identity = .ok entity) (name : String) :
    (entity.field? name).map Field.toDeclaration =
      ((FieldDeclaration.last? builder.fields name).map
        (·.settled (builder.naming parent.naming))).or
          ((parent.field? name).map Field.toDeclaration) := by
  rw [Entity.map_field?, (fields_of_extend built).2, EntityDeclaration.find?_declareAll,
    FieldDeclaration.last?_map_settled, Entity.map_field?]

end EntityBuilder

namespace Entity

/-- With nothing declared, a child is its parent under another name. -/
theorem build_extend {entity : Entity} (named : ∀ name ∈ entity.fieldNames, name ≠ "")
    {name : String} (given : name ≠ "") (identity : Nat) :
    (entity.extend name).build identity =
      .ok { entity with identity := identity, name := name } := by
  have resolved (role : NameRole) (held : Option Ident) :
      EntityDeclaration.resolveName name role (held.map Ident.name) = .ok held := by
    cases held with
    | none => rfl
    | some ident =>
        rw [Option.map_some, EntityDeclaration.resolveName, Ident.ofName_name]
  have fields : (entity.fields.map Field.toDeclaration).mapM (·.resolve name entity.naming) =
      .ok entity.fields := by
    rw [mapM_eq_ok, List.forall₂_map_left_iff, List.forall₂_same]
    exact fun field member =>
      field.resolve_toDeclaration name entity.naming (named _ (List.mem_map_of_mem member))
  have table := resolved .table entity.table
  have schema := resolved .schema entity.schema
  unfold EntityDeclaration.build
  rw [if_neg (show (entity.extend name).name ≠ "" from given)]
  dsimp only [extend]
  rw [table, schema, fields]
  rfl

end Entity

namespace Lineage

variable {declared : List FieldDeclaration} {entity : Entity}

/-- The fields of an entity are those declared along its line, one after the other. -/
theorem fields_eq_declareAll (line : Lineage declared entity) :
    entity.fields.map Field.toDeclaration = EntityDeclaration.declareAll [] declared := by
  induction line with
  | root built => exact EntityBuilder.fields_of_root built
  | extend _ built ih =>
      rw [EntityDeclaration.declareAll_append, ← ih]
      exact (EntityBuilder.fields_of_extend built).2

theorem name_ne_empty (line : Lineage declared entity) : ∀ name ∈ entity.fieldNames, name ≠ "" := by
  cases line with
  | root built => exact (EntityDeclaration.settled_of_build built).2.2
  | extend _ built => exact (EntityDeclaration.settled_of_build built).2.2

/-- Down every line of entities, the names of fields are distinct and stand in the order in which
they were declared first, and each field is what was declared last under its name.  A child leaves
the fields that it does not declare as they are, whatever its strategy; the others get their columns
by its own strategy unless they are given.  An extension without calls changes the name only. -/
theorem fields_inherited (line : Lineage declared entity) :
    (∀ name ∈ entity.fieldNames, name ≠ "") ∧
    entity.fieldNames.Nodup ∧
    entity.fieldNames = (declared.map FieldDeclaration.name).eraseDups ∧
    (∀ field ∈ entity.fields,
      FieldDeclaration.last? declared field.name = some field.toDeclaration) ∧
    (∀ (builder : EntityBuilder) (identity : Nat) (child : Entity),
      (builder.declaration (some entity)).build identity = .ok child →
        (∀ name, name ∉ builder.fieldNames → child.field? name = entity.field? name) ∧
        ∀ name ∈ builder.fieldNames, ∃ declaration field,
          FieldDeclaration.last? builder.fields name = some declaration ∧
            child.field? name = some field ∧
            field.toDeclaration = declaration.settled (builder.naming entity.naming)) ∧
    ∀ name, name ≠ "" → ∀ identity,
      (entity.extend name).build identity =
        .ok { entity with identity := identity, name := name } := by
  have fields := line.fields_eq_declareAll
  have names : entity.fieldNames =
      (EntityDeclaration.declareAll [] declared).map FieldDeclaration.name := by
    rw [← fields, List.map_map]
    rfl
  have distinct : entity.fieldNames.Nodup := by
    rw [names]
    exact @EntityDeclaration.nodup_declareAll [] List.nodup_nil declared
  refine ⟨line.name_ne_empty, distinct,
    names.trans (EntityDeclaration.map_name_declareAll declared), fun field member => ?_,
    fun builder identity child built => ⟨fun name absent => ?_, fun name present => ?_⟩,
    fun name given => Entity.build_extend line.name_ne_empty given⟩
  · have found := entity.map_field? field.name
    rw [Entity.field?_of_mem distinct member, fields, EntityDeclaration.find?_declareAll] at found
    exact (Option.or_none.symm.trans found.symm)
  · have found := EntityBuilder.map_field?_of_extend built name
    rw [FieldDeclaration.last?_eq_none_iff.2 absent] at found
    exact Option.map_injective Field.toDeclaration_injective found
  · have found := EntityBuilder.map_field?_of_extend built name
    cases last : FieldDeclaration.last? builder.fields name with
    | none => exact absurd present (FieldDeclaration.last?_eq_none_iff.1 last)
    | some declaration =>
        rw [last] at found
        obtain ⟨field, given, same⟩ := Option.map_eq_some_iff.1 found
        exact ⟨declaration, field, rfl, given, same⟩

end Lineage

namespace Sample

/-- Users with columns in snake case. -/
def userBuilder : EntityBuilder :=
  ⟨"User", [.table "user", .declare (.plain "firstName" .text),
    .declare { FieldDeclaration.plain "email" .text with column := some "mail" },
    .naming .snakeCase]⟩

/-- Administrators are users whose first name is declared once more. -/
def adminBuilder : EntityBuilder :=
  ⟨"Admin", [.declare (.plain "firstName" .any), .naming .identity,
    .declare (.plain "loginName" .text)]⟩

end Sample

/-- An administrator has the address of a user in its column, and the first name in a column of its
own. -/
theorem Lineage.fields_inherited_of_admin :
    ∃ user admin, (Sample.userBuilder.declaration none).build 0 = .ok user ∧
      (Sample.adminBuilder.declaration (some user)).build 1 = .ok admin ∧
      admin.fieldNames = ["firstName", "email", "loginName"] ∧
      user.fields.map (·.column.name) = ["first_name", "mail"] ∧
      admin.fields.map (·.column.name) = ["firstName", "mail", "loginName"] ∧
      admin.field? "email" = user.field? "email" ∧
      (admin.extend "Root").build 2 = .ok { admin with identity := 2, name := "Root" } := by
  obtain ⟨user, admin, built, extended, stored, named, columns⟩ : ∃ user admin,
      (Sample.userBuilder.declaration none).build 0 = .ok user ∧
      (Sample.adminBuilder.declaration (some user)).build 1 = .ok admin ∧
      user.fields.map (·.column.name) = ["first_name", "mail"] ∧
      admin.fieldNames = ["firstName", "email", "loginName"] ∧
      admin.fields.map (·.column.name) = ["firstName", "mail", "loginName"] :=
    ⟨_, _, rfl, rfl, by decide +kernel, rfl, rfl⟩
  have line := Lineage.root built
  obtain ⟨-, -, -, -, inherits, -⟩ := line.fields_inherited
  obtain ⟨-, -, -, -, -, renames⟩ := (line.extend extended).fields_inherited
  exact ⟨user, admin, built, extended, named, stored, columns,
    (inherits Sample.adminBuilder 1 admin extended).1 "email" (by decide),
    renames "Root" (by decide) 2⟩

end EntityQuery

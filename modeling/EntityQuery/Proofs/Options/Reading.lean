import EntityQuery.Options.Reader
import EntityQuery.Proofs.Outcome
import Mathlib.Tactic.SplitIfs

/-!
# The items of a list option

A value for a list option is a tree of arrays, and for some options of objects.  Its leaves, in the
order in which they are written, stand for one item each.  A reader that accepts the value gives
the items of all its leaves, in that order.
-/

namespace EntityQuery.ListOption

open Outcome

/-- The part of a value that stands for one item. -/
inductive Leaf
  | value (value : Json)
  | entry (key : String) (value : Json)

/-- Whether each entry of an object stands for an item, rather than the object for one. -/
def spreads : ListOption → Bool
  | .fields | .orderBy => true
  | .filter | .groupBy | .having | .lockedTables => false

mutual

/-- The leaves of a value as they are written. -/
def leaves (option : ListOption) : Json → List Leaf
  | .array items => leavesOfItems option items
  | .object entries =>
      if option.spreads then entries.map fun entry => .entry entry.1 entry.2
      else [.value (.object entries)]
  | value => [.value value]

def leavesOfItems (option : ListOption) : List Json → List Leaf
  | [] => []
  | item :: rest => leaves option item ++ leavesOfItems option rest

end

/-- The word is the keyword, with each of its letters in either case. -/
def SpeltAs (keyword word : String) : Prop :=
  List.Forall₂ (fun letter char => char = letter ∨ char = letter.toUpper) keyword.toList word.toList

/-- The numbers and the words for the two directions. -/
inductive Directs : Json → Direction → Prop
  | one : Directs (.integer 1) .ascending
  | minusOne : Directs (.integer (-1)) .descending
  | asc {word : String} : SpeltAs "asc" word → Directs (.string word) .ascending
  | desc {word : String} : SpeltAs "desc" word → Directs (.string word) .descending

/-- The condition that all fields of a record equal their values. -/
def equations (record : Record) : Expr :=
  .group .and (record.map fun entry =>
    .condition (.compare .equalTo (.name entry.1) (.value entry.2)))

/-- The leaf stands for the item. -/
def StandsFor : (option : ListOption) → Leaf → option.Item → Prop
  | .fields, .value (.string name), column => column = ⟨name, .field name⟩
  | .fields, .entry key (.string field), column => column = ⟨key, .field field⟩
  | .filter, .value (.object record), condition => condition = equations record
  | .having, .value (.object record), condition => condition = equations record
  | .groupBy, .value (.string name), target => target = .name name
  | .orderBy, .value (.string name), term => term = ⟨.name name, .ascending⟩
  | .orderBy, .entry key value, term =>
      ∃ direction, Directs value direction ∧ term = ⟨.name key, direction⟩
  | .lockedTables, .value (.string name), table => table = name
  | _, _, _ => False

/-- The leaves of the value stand for the items, in order. -/
def Lists (option : ListOption) (value : Json) (items : List option.Item) : Prop :=
  List.Forall₂ option.StandsFor (option.leaves value) items

namespace Lists

variable {option : ListOption}

theorem eq_nil_iff {value : Json} {items : List option.Item} (lists : Lists option value items) :
    items = [] ↔ option.leaves value = [] := by
  rw [← List.length_eq_zero_iff, ← lists.length_eq, List.length_eq_zero_iff]

theorem object {entries : Record} {items : List option.Item} (spreads : option.spreads = true)
    (each : List.Forall₂ (fun entry item => option.StandsFor (.entry entry.1 entry.2) item)
      entries items) : Lists option (.object entries) items := by
  unfold Lists
  rw [leaves, if_pos spreads]
  exact List.forall₂_map_left_iff.2 each

theorem array {values : List Json} {groups : List (List option.Item)}
    (each : List.Forall₂ (Lists option) values groups) :
    Lists option (.array values) groups.flatten := by
  unfold Lists
  rw [leaves]
  induction each with
  | nil => exact .nil
  | cons head _ ih =>
      rw [leavesOfItems, List.flatten_cons]
      exact List.rel_append head ih

theorem of_map {κ : Type} {source : κ → Leaf} {stands : κ → option.Item} {value : Json}
    {keys : List κ} (written : option.leaves value = keys.map source)
    (each : ∀ key, option.StandsFor (source key) (stands key)) :
    Lists option value (keys.map stands) := by
  unfold Lists
  rw [written, List.forall₂_map_left_iff, List.forall₂_map_right_iff]
  exact List.forall₂_same.2 fun key _ => each key

end Lists

/-- A letter that is lowered was small before, or is the capital of what it is lowered to. -/
theorem eq_toLower_or_eq_toUpper (char : Char) :
    char = char.toLower ∨ char = char.toLower.toUpper := by
  unfold Char.toLower
  split
  case isTrue capital =>
      have small : 'a'.val ≤ char.val + ('a'.val - 'A'.val) ∧
          char.val + ('a'.val - 'A'.val) ≤ 'z'.val := by grind
      have raised : char.val = char.val + ('a'.val - 'A'.val) + ('A'.val - 'a'.val) := by grind
      right
      unfold Char.toUpper
      split
      case isTrue => exact Char.ext raised
      case isFalse other => exact absurd small other
  case isFalse => exact .inl rfl

theorem speltAs_of_lowered {keyword word : String}
    (lowered : word.toList.map Char.toLower = keyword.toList) : SpeltAs keyword word := by
  unfold SpeltAs
  rw [← lowered, List.forall₂_map_left_iff]
  exact List.forall₂_same.2 fun char _ => eq_toLower_or_eq_toUpper char

theorem directs_of_direction {value : Json} {given : Direction}
    (read : direction value = .ok given) : Directs value given := by
  unfold direction at read
  split at read
  case h_1 =>
      obtain rfl := Except.ok.inj read
      exact .one
  case h_2 =>
      obtain rfl := Except.ok.inj read
      exact .minusOne
  case h_3 word =>
      dsimp only at read
      split_ifs at read with asc desc
      · obtain rfl := Except.ok.inj read
        exact .asc (speltAs_of_lowered asc)
      · obtain rfl := Except.ok.inj read
        exact .desc (speltAs_of_lowered desc)
  case h_4 => contradiction

theorem toExpr_ofRecord (record : Record) : (Grouping.ofRecord record).toExpr = equations record := by
  unfold Grouping.ofRecord Grouping.equalsAll Grouping.toExpr
  rw [List.map_map]
  rfl

theorem lists_of_columnGroup {value : Json} {items : List Column}
    (read : columnGroup value = .ok items) : Lists .fields value items := by
  cases value with
  | string name =>
      obtain rfl := Except.ok.inj read
      exact .cons rfl .nil
  | object entries =>
      refine Lists.object rfl ((mapM_eq_ok.1 read).imp ?_)
      rintro ⟨key, source⟩ column made
      cases source with
      | string field => exact (Except.ok.inj made).symm
      | _ => contradiction
  | _ => contradiction

theorem lists_of_columns {value : Json} {items : List Column}
    (read : columns value = .ok items) : Lists .fields value items := by
  cases value with
  | array values =>
      rw [columns, map_eq_pure_bind, bind_eq_ok] at read
      obtain ⟨groups, each, whole⟩ := read
      obtain rfl := pure_eq_ok.1 whole
      exact Lists.array ((mapM_eq_ok.1 each).imp fun _ _ => lists_of_columnGroup)
  | _ => exact lists_of_columnGroup read

/-- Where an object is one item, conditions are read from objects alone. -/
theorem leaves_of_conditions (option : ListOption) (whole : option.spreads = false)
    {value : Json} {items : List Expr} (read : conditions value = .ok items) :
    ∃ records : List Record,
      option.leaves value = records.map (fun record => .value (.object record)) ∧
      items = records.map fun record => (Grouping.ofRecord record).toExpr := by
  have single (record : Record) : option.leaves (.object record) = [.value (.object record)] := by
    rw [leaves, if_neg (Bool.eq_false_iff.1 whole)]
  cases value with
  | object record =>
      obtain rfl := Except.ok.inj read
      exact ⟨[record], single record, rfl⟩
  | array values =>
      rw [leaves]
      have each := mapM_eq_ok.1 (show values.mapM condition = .ok items from read)
      induction each with
      | nil => exact ⟨[], rfl, rfl⟩
      | @cons value item _ _ head tail ih =>
          obtain ⟨records, others, rfl⟩ := ih (mapM_eq_ok.2 tail)
          cases value with
          | object record =>
              obtain rfl := Except.ok.inj head
              refine ⟨record :: records, ?_, rfl⟩
              rw [leavesOfItems, single, others]
              rfl
          | _ => contradiction
  | _ => contradiction

theorem leaves_of_names (option : ListOption) {value : Json} {items : List String}
    (read : names value = .ok items) :
    option.leaves value = items.map fun name => .value (.string name) := by
  cases value with
  | string name =>
      obtain rfl := Except.ok.inj read
      rw [leaves]
      · rfl
      · simp
      · simp
  | array values =>
      rw [leaves]
      have each := mapM_eq_ok.1 (show values.mapM listedName = .ok items from read)
      induction each with
      | nil => rfl
      | @cons value name _ _ head tail ih =>
          rw [leavesOfItems, ih (mapM_eq_ok.2 tail)]
          cases value with
          | string text =>
              obtain rfl := Except.ok.inj head
              rfl
          | _ => contradiction
  | _ => contradiction

mutual

theorem lists_of_orderTerms {value : Json} {items : List OrderTerm}
    (read : orderTerms value = .ok items) : Lists .orderBy value items := by
  cases value with
  | string name =>
      obtain rfl := Except.ok.inj read
      exact .cons rfl .nil
  | object entries =>
      rw [orderTerms] at read
      refine Lists.object rfl ((mapM_eq_ok.1 read).imp ?_)
      rintro ⟨key, value⟩ term made
      rw [orderedField, map_eq_pure_bind, bind_eq_ok] at made
      obtain ⟨direction, given, whole⟩ := made
      exact ⟨direction, directs_of_direction given, (pure_eq_ok.1 whole).symm⟩
  | array values =>
      rw [orderTerms] at read
      obtain ⟨groups, each, rfl⟩ := lists_of_orderTermsOfItems read
      exact Lists.array each
  | _ => contradiction

theorem lists_of_orderTermsOfItems {values : List Json} {items : List OrderTerm}
    (read : orderTermsOfItems values = .ok items) :
    ∃ groups, List.Forall₂ (Lists .orderBy) values groups ∧ items = groups.flatten := by
  cases values with
  | nil =>
      obtain rfl := Except.ok.inj read
      exact ⟨[], .nil, rfl⟩
  | cons value rest =>
      rw [orderTermsOfItems, bind_eq_ok] at read
      obtain ⟨group, first, read⟩ := read
      obtain ⟨others, second, whole⟩ := bind_eq_ok.1 read
      obtain rfl := pure_eq_ok.1 whole
      obtain ⟨groups, each, rfl⟩ := lists_of_orderTermsOfItems second
      exact ⟨group :: groups, .cons (lists_of_orderTerms first) each, rfl⟩

end

/-- Every reader of a list option gives the items of the leaves of the value, in order. -/
theorem lists_of_read {option : ListOption} {value : Json} {items : List option.Item}
    (read : option.read value = .ok items) : Lists option value items := by
  cases option with
  | fields => exact lists_of_columns read
  | filter =>
      obtain ⟨records, written, rfl⟩ := leaves_of_conditions .filter rfl read
      exact Lists.of_map written toExpr_ofRecord
  | having =>
      obtain ⟨records, written, rfl⟩ := leaves_of_conditions .having rfl read
      exact Lists.of_map written toExpr_ofRecord
  | groupBy =>
      rw [ListOption.read, map_eq_pure_bind, bind_eq_ok] at read
      obtain ⟨texts, given, whole⟩ := read
      obtain rfl := pure_eq_ok.1 whole
      exact Lists.of_map (leaves_of_names .groupBy given) fun _ => rfl
  | orderBy => exact lists_of_orderTerms read
  | lockedTables =>
      have listed : Lists .lockedTables value (items.map id) :=
        Lists.of_map (leaves_of_names .lockedTables read) fun _ => rfl
      rwa [List.map_id] at listed

end EntityQuery.ListOption

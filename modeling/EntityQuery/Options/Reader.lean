import EntityQuery.Number.Numeral
import EntityQuery.Options.Name
import EntityQuery.Text.Blank

/-!
# Reading options from JSON

A list option takes one item or an array of items, and for some options an object stands for
several items in the order of its entries.  Counts are whole numbers, numbers whose fraction is
dropped, or digits as text.
-/

namespace EntityQuery

namespace ListOption

/-- The column of an alias and the field it names. -/
def aliasedColumn (entry : String × Json) : Except OptionFault Column :=
  match entry.2 with
  | .string field => .ok ⟨entry.1, .field field⟩
  | source => .error (.aliasSource entry.1 source)

/-- The columns of a field name or of an object from aliases to field names. -/
def columnGroup : Json → Except OptionFault (List Column)
  | .string name => .ok [.ofField name]
  | .object entries => entries.mapM aliasedColumn
  | .array _ => .error .nestedArrays
  | value => .error (.expected .fieldNames value)

def columns : Json → Except OptionFault (List Column)
  | .array items => List.flatten <$> items.mapM columnGroup
  | value => columnGroup value

/-- The condition that fields equal the values of an object. -/
def condition : Json → Except OptionFault Expr
  | .object entries => .ok (Grouping.ofRecord entries).toExpr
  | value => .error (.expected .fieldValues value)

def conditions : Json → Except OptionFault (List Expr)
  | .array items => items.mapM condition
  | value => (fun item => [item]) <$> condition value

/-- A name in an array of names. -/
def listedName : Json → Except OptionFault String
  | .string name => .ok name
  | value => .error (.expected .text value)

def names : Json → Except OptionFault (List String)
  | .string name => .ok [name]
  | .array items => items.mapM listedName
  | value => .error (.expected .texts value)

/-- A direction: one for ascending and minus one for descending, or a keyword in any case. -/
def direction : Json → Except OptionFault Direction
  | .integer 1 => .ok .ascending
  | .integer (-1) => .ok .descending
  | .string word =>
      let lowered := word.toList.map Char.toLower
      if lowered = ['a', 's', 'c'] then .ok .ascending
      else if lowered = ['d', 'e', 's', 'c'] then .ok .descending
      else .error (.direction (.string word))
  | value => .error (.direction value)

def orderedField (entry : String × Json) : Except OptionFault OrderTerm :=
  OrderTerm.mk (.name entry.1) <$> direction entry.2

mutual

/-- The ordering terms of a value; arrays may be nested. -/
def orderTerms : Json → Except OptionFault (List OrderTerm)
  | .string name => .ok [⟨.name name, .ascending⟩]
  | .object entries => entries.mapM orderedField
  | .array items => orderTermsOfItems items
  | value => .error (.expected .fieldNames value)

/-- The ordering terms of values, in order. -/
def orderTermsOfItems : List Json → Except OptionFault (List OrderTerm)
  | [] => .ok []
  | item :: rest => return (← orderTerms item) ++ (← orderTermsOfItems rest)

end

/-- The items of the option that a value stands for. -/
def read : (option : ListOption) → Json → Except OptionFault (List option.Item)
  | .fields, value => columns value
  | .filter, value => conditions value
  | .having, value => conditions value
  | .groupBy, value => List.map Target.name <$> names value
  | .orderBy, value => orderTerms value
  | .lockedTables, value => names value

end ListOption

namespace CountOption

/-- The greatest number of rows that can be asked for. -/
def greatest : Nat := Nat.pow 2 64 - 1

/-- The number of rows that a value stands for.  A fraction is dropped, and greater numbers with a
fraction are lowered to the greatest count. -/
def count? : Json → Option Nat
  | .integer number =>
      if 0 ≤ number ∧ number ≤ greatest then some number.toNat else none
  | .real number =>
      if number.negative ∧ number.magnitude ≠ 0 then none
      else some (min number.wholePart greatest)
  | .string text => Numeral.unsignedWithin? 64 (Text.trim text)
  | _ => none

/-- The count of the option that a value stands for; batches cannot be empty. -/
def read (option : CountOption) (value : Json) : Except OptionFault Nat :=
  match count? value with
  | none => .error (.expected .integer value)
  | some count => if option = .batchSize ∧ count = 0 then .error .notPositive else .ok count

end CountOption

def FlagOption.read : Json → Except OptionFault Bool
  | .bool value => .ok value
  | value => .error (.expected .boolean value)

/-- What a value sets the option to, or adds to it. -/
def OptionName.read : (name : OptionName) → Json → Except OptionFault name.Held
  | .list option, value => option.read value
  | .count option, value => option.read value
  | .flag _, value => FlagOption.read value

end EntityQuery

/-!
# Operators of conditions

Every operator has a tag, by which conditions name it, and a keyword, which is written into the
statement.  Operators are grouped by the shape of the conditions they build.
-/

namespace EntityQuery

/-- How items are combined. -/
inductive Junction
  | and
  | or
  deriving DecidableEq

def Junction.separator : Junction → String
  | .and => " AND "
  | .or => " OR "

/-- Operators between a column and one operand. -/
inductive Comparison
  | equalTo
  | notEqualTo
  | greaterThan
  | greaterThanOrEqualTo
  | lessThan
  | lessThanOrEqualTo
  | like
  deriving DecidableEq

/-- Quantifiers over the rows or items of an operand. -/
inductive Quantifier
  | any
  | some
  | all
  deriving DecidableEq

/-- An operator. -/
inductive Operator
  | nullTest (negated : Bool)
  | compare (comparison : Comparison)
  | between
  | isIn
  | not
  | exists
  | quantified (quantifier : Quantifier)
  | junction (junction : Junction)
  deriving DecidableEq

namespace Operator

def tag : Operator → String
  | .nullTest false => "isNull"
  | .nullTest true => "isNotNull"
  | .compare .equalTo => "equalTo"
  | .compare .notEqualTo => "notEqualTo"
  | .compare .greaterThan => "greaterThan"
  | .compare .greaterThanOrEqualTo => "greaterThanOrEqualTo"
  | .compare .lessThan => "lessThan"
  | .compare .lessThanOrEqualTo => "lessThanOrEqualTo"
  | .compare .like => "like"
  | .between => "between"
  | .isIn => "in"
  | .not => "not"
  | .exists => "exists"
  | .quantified .any => "any"
  | .quantified .some => "some"
  | .quantified .all => "all"
  | .junction .and => "and"
  | .junction .or => "or"

def keyword : Operator → String
  | .nullTest false => "IS NULL"
  | .nullTest true => "IS NOT NULL"
  | .compare .equalTo => "="
  | .compare .notEqualTo => "<>"
  | .compare .greaterThan => ">"
  | .compare .greaterThanOrEqualTo => ">="
  | .compare .lessThan => "<"
  | .compare .lessThanOrEqualTo => "<="
  | .compare .like => "LIKE"
  | .between => "BETWEEN"
  | .isIn => "IN"
  | .not => "NOT"
  | .exists => "EXISTS"
  | .quantified .any => "ANY"
  | .quantified .some => "SOME"
  | .quantified .all => "ALL"
  | .junction .and => "AND"
  | .junction .or => "OR"

def all : List Operator :=
  [.nullTest false, .nullTest true, .compare .equalTo, .compare .notEqualTo,
    .compare .greaterThan, .compare .greaterThanOrEqualTo, .compare .lessThan,
    .compare .lessThanOrEqualTo, .compare .like, .between, .isIn, .not, .exists,
    .quantified .any, .quantified .some, .quantified .all, .junction .and, .junction .or]

def ofTag? (tag : String) : Option Operator := all.find? fun operator => operator.tag == tag

/-- Whether the operator can stand without a target. -/
def isWholeRow : Operator → Bool
  | .not | .exists | .quantified _ | .junction _ => true
  | _ => false

def isUnary : Operator → Bool
  | .nullTest _ => true
  | _ => false

/-- Whether the operator can have a target. -/
def acceptsTarget : Operator → Bool
  | .not | .exists | .junction _ => false
  | _ => true

end Operator

end EntityQuery

import EntityQuery.Expr

/-!
# Names of query options

An option holds a list that later values are appended to, a count, or a flag.  Every option has one
name; options whose names have several words can be spelt with underscores as well.
-/

namespace EntityQuery

/-- Options that hold a list. -/
inductive ListOption
  | fields
  | filter
  | groupBy
  | having
  | orderBy
  | lockedTables
  deriving DecidableEq

/-- Options that hold a number of rows. -/
inductive CountOption
  | limit
  | offset
  | batchSize
  deriving DecidableEq

/-- Options that are on or off. -/
inductive FlagOption
  | distinct
  | forUpdate
  | forShare
  | noWait
  | skipLocked
  | first
  | require
  | debug
  deriving DecidableEq

/-- An option. -/
inductive OptionName
  | list (option : ListOption)
  | count (option : CountOption)
  | flag (option : FlagOption)
  deriving DecidableEq

/-- What the list of an option consists of. -/
abbrev ListOption.Item : ListOption → Type
  | .fields => Column
  | .filter | .having => Expr
  | .groupBy => Target
  | .orderBy => OrderTerm
  | .lockedTables => String

/-- What an option holds when it is set. -/
abbrev OptionName.Held : OptionName → Type
  | .list option => List option.Item
  | .count _ => Nat
  | .flag _ => Bool

/-- Whether setting the option to no items sets it to an empty list.  Otherwise such a value leaves
the option as it was. -/
def ListOption.holdsNothing : ListOption → Bool
  | .fields | .groupBy | .lockedTables => true
  | .filter | .having | .orderBy => false

namespace OptionName

/-- Every option, in the order in which set options are listed. -/
def all : List OptionName :=
  [.list .fields, .list .filter, .list .groupBy, .list .having, .list .orderBy, .count .limit,
    .count .offset, .flag .distinct, .flag .forUpdate, .flag .forShare, .list .lockedTables,
    .flag .noWait, .flag .skipLocked, .count .batchSize, .flag .first, .flag .require,
    .flag .debug]

def text : OptionName → String
  | .list .fields => "fields"
  | .list .filter => "where"
  | .list .groupBy => "groupBy"
  | .list .having => "having"
  | .list .orderBy => "orderBy"
  | .list .lockedTables => "of"
  | .count .limit => "limit"
  | .count .offset => "offset"
  | .count .batchSize => "batchSize"
  | .flag .distinct => "distinct"
  | .flag .forUpdate => "forUpdate"
  | .flag .forShare => "forShare"
  | .flag .noWait => "noWait"
  | .flag .skipLocked => "skipLocked"
  | .flag .first => "first"
  | .flag .require => "require"
  | .flag .debug => "debug"

/-- The name of the option with underscores between its words. -/
def snakeText : OptionName → String
  | .list .groupBy => "group_by"
  | .list .orderBy => "order_by"
  | .count .batchSize => "batch_size"
  | .flag .forUpdate => "for_update"
  | .flag .forShare => "for_share"
  | .flag .noWait => "no_wait"
  | .flag .skipLocked => "skip_locked"
  | name => name.text

def ofText? (spelling : String) : Option OptionName :=
  all.find? fun name => name.text == spelling || name.snakeText == spelling

end OptionName

end EntityQuery

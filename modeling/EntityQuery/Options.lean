import EntityQuery.Options.Reader

/-!
# Query options

Options are one family, indexed by name: each is unset or holds a value of its own kind.  Setting a
list option appends to it, setting any other option replaces what it holds.  Unset options can be
taken from defaults.

Setting options from JSON can fail.  It gives the options that are left in either case, and what it
ended in.
-/

namespace EntityQuery

/-- The options of a query: what each option holds, if it is set. -/
structure Options where
  held? : (name : OptionName) → Option name.Held

namespace Options

def unset : Options := ⟨fun _ => none⟩

def isSet (options : Options) (name : OptionName) : Bool := (options.held? name).isSome

def setNames (options : Options) : List OptionName := OptionName.all.filter options.isSet

def update (options : Options) (name : OptionName) (held : Option name.Held) : Options :=
  ⟨fun other => if same : name = other then same ▸ held else options.held? other⟩

def put (options : Options) (name : OptionName) (held : name.Held) : Options :=
  options.update name (some held)

def clear (options : Options) (name : OptionName) : Options := options.update name none

/-- The items of a list option; none if it is unset. -/
def items (options : Options) (option : ListOption) : List option.Item :=
  (options.held? (.list option)).getD []

/-- The count of an option, if it is set. -/
def count? (options : Options) (option : CountOption) : Option Nat :=
  options.held? (.count option)

/-- Whether a flag is on; unset flags are off. -/
def isOn (options : Options) (option : FlagOption) : Bool :=
  (options.held? (.flag option)).getD false

def append (options : Options) (option : ListOption) (items : List option.Item) : Options :=
  if items.isEmpty && !option.holdsNothing then options
  else options.put (.list option) (options.items option ++ items)

/-- Add a value that was read for an option: items are appended, anything else replaces. -/
def add (options : Options) : (name : OptionName) → name.Held → Options
  | .list option, items => options.append option items
  | .count option, count => options.put (.count option) count
  | .flag option, value => options.put (.flag option) value

/-- The option that is spelt so, or an error. -/
def named (spelling : String) : Except Error OptionName :=
  match OptionName.ofText? spelling with
  | some name => .ok name
  | none => .error (.unknownOption spelling)

/-- Clear the option that is spelt so. -/
def clearNamed (options : Options) (spelling : String) : Options × Except Error Unit :=
  match named spelling with
  | .ok name => (options.clear name, .ok ())
  | .error error => (options, .error error)

/-- Add a value to an option, once the whole of it has been read. -/
def apply (options : Options) (name : OptionName) (value : Json) : Options × Except Error Unit :=
  match name.read value with
  | .ok held => (options.add name held, .ok ())
  | .error fault => (options, .error (.invalidOption name.text fault))

/-- Set an option from JSON: no value leaves it as it is, and null clears it. -/
def set (options : Options) (spelling : String) (value : Option Json) :
    Options × Except Error Unit :=
  match named spelling with
  | .error error => (options, .error error)
  | .ok name =>
      match value with
      | none => (options, .ok ())
      | some .null => options.clearNamed name.text
      | some value => options.apply name value

/-- Set options from the entries of an object, in order.  The first entry that fails ends it; the
options of the entries before it stay set. -/
def setAll (options : Options) : Record → Options × Except Error Unit
  | [] => (options, .ok ())
  | (spelling, value) :: rest =>
      match options.set spelling (some value) with
      | (changed, .ok ()) => changed.setAll rest
      | (reached, .error error) => (reached, .error error)

/-- These options, with the defaults for those that are unset. -/
def withDefaults (options defaults : Options) : Options :=
  ⟨fun name => (options.held? name).or (defaults.held? name)⟩

end Options

end EntityQuery

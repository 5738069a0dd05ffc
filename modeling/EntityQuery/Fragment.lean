import EntityQuery.Json.Value

/-!
# SQL fragments

Text with placeholders and the values bound to them, side by side.  Appending fragments appends
both, so that values follow the order of their placeholders.  A raw fragment written by the
caller is the same data: its text and values are spliced in as they are.
-/

namespace EntityQuery

/-- SQL text with the values of its placeholders. -/
structure Fragment where
  text : String
  values : List Json

namespace Fragment

def empty : Fragment := ⟨"", []⟩

def ofText (text : String) : Fragment := ⟨text, []⟩

def bound (value : Json) : Fragment := ⟨"?", [value]⟩

/-- One placeholder without a value: a statement that contains it is not valid. -/
def unbound : Fragment := ⟨"?", []⟩

def isEmpty (fragment : Fragment) : Bool := fragment.text.toList.isEmpty

protected def append (first second : Fragment) : Fragment :=
  ⟨first.text ++ second.text, first.values ++ second.values⟩

instance : Append Fragment := ⟨Fragment.append⟩

/-- Fragments in order with a separator between them. -/
def intercalate (separator : String) : List Fragment → Fragment
  | [] => empty
  | [part] => part
  | part :: rest => part ++ ofText separator ++ intercalate separator rest

/-- Fragments in order with a separator between them; those without text are left out. -/
def joined (separator : String) (parts : List Fragment) : Fragment :=
  intercalate separator (parts.filter fun part => !part.isEmpty)

def parenthesized (fragment : Fragment) : Fragment :=
  ofText "(" ++ fragment ++ ofText ")"

/-- A keyword before the fragment, or nothing before nothing. -/
def after (keyword : String) (fragment : Fragment) : Fragment :=
  if fragment.isEmpty then empty else ofText keyword ++ fragment

/-- The clauses of a statement, separated by single spaces. -/
def clauses (parts : List Fragment) : Fragment := joined " " parts

end Fragment

end EntityQuery

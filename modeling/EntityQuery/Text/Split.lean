/-!
# Splitting text at a mark
-/

namespace EntityQuery.Text

/-- What stands before the first occurrence of a mark, and what stands after it. -/
def splitFirst? (mark : Char) (text : String) : Option (String × String) :=
  match text.toList.span (· != mark) with
  | (before, _ :: after) => some (String.ofList before, String.ofList after)
  | (_, []) => none

end EntityQuery.Text

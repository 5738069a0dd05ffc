/-!
# Blank characters

The characters with the Unicode property White_Space, and text without them at its ends.
-/

namespace EntityQuery.Text

/-- The first and last code points of each run of blank characters. -/
def blankRuns : List (Nat × Nat) :=
  [(0x09, 0x0D), (0x20, 0x20), (0x85, 0x85), (0xA0, 0xA0), (0x1680, 0x1680), (0x2000, 0x200A),
    (0x2028, 0x2029), (0x202F, 0x202F), (0x205F, 0x205F), (0x3000, 0x3000)]

def isBlank (char : Char) : Bool :=
  blankRuns.any fun run => run.1 ≤ char.toNat && char.toNat ≤ run.2

/-- The text without blank characters at either end. -/
def trim (text : String) : String :=
  String.ofList
    (((text.toList.dropWhile isBlank).reverse.dropWhile isBlank).reverse)

end EntityQuery.Text

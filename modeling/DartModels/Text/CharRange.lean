/-
Sets of characters given as ranges of code points.
-/

namespace DartModels.Text

/-- The list holds the lowest and the highest code point of each range. -/
abbrev CharRanges := List (Nat × Nat)

def CharRanges.contains (ranges : CharRanges) (c : Char) : Bool :=
  ranges.any fun range => range.1 ≤ c.toNat && c.toNat ≤ range.2

/-- The lowest code point of the range that holds the character. -/
def CharRanges.start? (ranges : CharRanges) (c : Char) : Option Nat :=
  (ranges.find? fun range => range.1 ≤ c.toNat && c.toNat ≤ range.2).map Prod.fst

end DartModels.Text

/-!
# Sets of code points

Classes of characters that a standard gives by a list of code point ranges.
-/

namespace PhpOutline.Text

/-- A range of code points, both ends included. -/
structure CodePointRange where
  first : Nat
  last : Nat

/-- The character lies in the range. -/
def CodePointRange.contains (r : CodePointRange) (c : Char) : Bool :=
  decide (r.first ≤ c.toNat) && decide (c.toNat ≤ r.last)

/-- The character lies in one of the ranges. -/
def inRanges (table : List CodePointRange) (c : Char) : Bool := table.any (·.contains c)

end PhpOutline.Text

/-!
# Sets of characters given by ranges

A character property of the Unicode standard is written down as the list of its ranges of code
points.
-/

namespace QueryFilters.Text

/-- A range of code points, both ends included. -/
abbrev CodeRange := Nat × Nat

/-- Whether one of the ranges holds `c`. -/
def CodeRange.covers (ranges : List CodeRange) (c : Char) : Bool :=
  ranges.any fun range => range.1 ≤ c.toNat && c.toNat ≤ range.2

end QueryFilters.Text

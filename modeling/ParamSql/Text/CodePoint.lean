/-!
# Sets of code points

A property of characters is given by the ranges of code points that have it.

* `inRanges` — membership in a list of ranges, both ends included.
-/

set_option autoImplicit false

namespace ParamSql.Text

/-- Whether a code point lies in one of the ranges, both ends included. -/
def inRanges (ranges : List (Nat × Nat)) (n : Nat) : Bool :=
  ranges.any fun r => r.1 ≤ n && n ≤ r.2

end ParamSql.Text

/-!
# Sets of characters given by ranges

## Main definitions

* `Text.within ranges c`: whether the number of `c` lies in one of the ranges, ends included
-/

namespace SensorClient.Text

/-- Whether the number of a character lies in one of the ranges, ends included. -/
def within (ranges : List (Nat × Nat)) (c : Char) : Bool :=
  ranges.any fun range => range.1 ≤ c.toNat && c.toNat ≤ range.2

end SensorClient.Text

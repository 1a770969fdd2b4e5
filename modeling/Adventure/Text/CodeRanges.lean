/-! Character properties as sorted arrays of inclusive code point ranges. -/

namespace Adventure.Text

/-- A set of code points, as inclusive ranges `(first, last)` in increasing order. -/
structure CodeRanges where
  ranges : Array (Nat × Nat)

namespace CodeRanges

/-- Whether the code point of `c` lies in one of the ranges. -/
def contains (t : CodeRanges) (c : Char) : Bool :=
  t.ranges.toList.any fun r => decide (r.1 ≤ c.toNat) && decide (c.toNat ≤ r.2)

end CodeRanges

end Adventure.Text

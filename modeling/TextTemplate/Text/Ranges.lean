/-!
# Tables of code point ranges

A character property is a table of ascending, disjoint closed ranges of code points.

## Main definitions

- `inRanges` — membership, which stops at the first range above the code point
-/

namespace TextTemplate.Text

/-- Whether `n` lies in one of the ranges, which ascend. -/
def inRanges (n : Nat) : List (Nat × Nat) → Bool
  | [] => false
  | (low, high) :: rest => low ≤ n && (n ≤ high || inRanges n rest)

end TextTemplate.Text

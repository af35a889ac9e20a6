import TextTemplate.Text.Ranges

/-!
# Blanks

The Unicode property White_Space.

## Main definitions

- `isBlank` — the property as a test on characters
-/

namespace TextTemplate.Text

/-- The code points with the property White_Space, as ascending closed ranges. -/
def blankRanges : List (Nat × Nat) :=
  [(0x9, 0xd), (0x20, 0x20), (0x85, 0x85), (0xa0, 0xa0), (0x1680, 0x1680), (0x2000, 0x200a),
   (0x2028, 0x2029), (0x202f, 0x202f), (0x205f, 0x205f), (0x3000, 0x3000)]

/-- Blank characters: the Unicode property White_Space. -/
def isBlank (c : Char) : Bool :=
  inRanges c.toNat blankRanges

end TextTemplate.Text

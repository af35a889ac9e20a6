import TextTemplate.Number.Binary64

/-!
# Shortest decimals

The decimal with the fewest digits that still reads back as a given double, found in exact integer
arithmetic: the coarsest decimal grid that has a point among the reals that round to the double, and
of that grid the point nearest to it.

## Main definitions

- `Decimal` — digits and a power of ten
- `Binary64.roundsTo` — whether a real rounds to a magnitude
- `Binary64.shortest` — the shortest decimal of a positive double
-/

namespace TextTemplate

/-- A positive decimal: `digits · 10 ^ exponent`. -/
structure Decimal where
  digits : Nat
  exponent : Int
  deriving DecidableEq, Repr

/-- Which of two equally near decimals is taken. -/
inductive Tie
  | upper
  | even
  deriving DecidableEq, Repr

namespace Binary64

/-- The least power of ten that a shortest decimal needs: one unit is more than 10⁻³²⁴. -/
def finestExponent : Nat := 324

/-- Half units scaled by 10³²⁴, the common measure of doubles, of the borders between them, and of
decimal grids. -/
def scaled (halfUnits : Nat) : Nat :=
  halfUnits * Nat.pow 10 finestExponent

/-- The step of the decimal grid `10 ^ (level - 324)` in the common measure. -/
def gridStep (level : Nat) : Nat :=
  Nat.pow 10 level * (2 * unitsPerOne)

/-- Whether a point of the common measure rounds to the magnitude at `place`: it lies between the
middles towards both neighbours, the middles included where the place is even. -/
def roundsTo (place point : Nat) : Bool :=
  let low := scaled (unitsAt (place - 1) + unitsAt place)
  let high := scaled (unitsAt place + unitsAt (place + 1))
  if place % 2 == 0 then low ≤ point && point ≤ high else low < point && point < high

/-- The point of a grid that is nearest to the magnitude at `place` among those that round to it. -/
def nearestOnGrid (tie : Tie) (place level : Nat) : Option Nat :=
  let step := gridStep level
  let exact := scaled (2 * unitsAt place)
  let below := exact / step
  let gap := exact % step
  match roundsTo place (below * step), roundsTo place ((below + 1) * step) with
  | false, false => none
  | true, false => some below
  | false, true => some (below + 1)
  | true, true =>
    if 2 * gap < step then some below
    else if step < 2 * gap then some (below + 1)
    else match tie with
      | .upper => some (below + 1)
      | .even => if below % 2 == 0 then some below else some (below + 1)

/-- The nearest point on the coarsest grid, from `level` downwards, that has one. -/
def coarsest (tie : Tie) (place : Nat) : Nat → Decimal
  | 0 => ⟨(nearestOnGrid tie place 0).getD 0, -finestExponent⟩
  | level + 1 =>
    match nearestOnGrid tie place (level + 1) with
    | some digits => ⟨digits, (level + 1 : Nat) - (finestExponent : Int)⟩
    | none => coarsest tie place level

/-- A grid level whose step is above the magnitude at `place`, and not far above it. -/
def coarseLevel (place : Nat) : Nat :=
  Nat.log2 (unitsAt place) * 30103 / 100000 + 2

/-- The shortest decimal that reads back as a double other than zero, the nearest of those. -/
def shortest (tie : Tie) (x : Binary64) : Decimal :=
  coarsest tie x.magnitude (coarseLevel x.magnitude)

end Binary64

end TextTemplate

/-!
# Double precision numbers

The finite numbers of the 64-bit binary format, with a signed zero, as exact integers. A magnitude
is its place among all magnitudes in ascending order, which is also its bit pattern; every magnitude
is a whole number of units of 2⁻¹⁰⁷⁴.

## Main definitions

- `Binary64` — a sign and a finite magnitude
- `Binary64.units` — the magnitude as a number of units
- `Binary64.ofUnits?` — the nearest double to a rational number of units
- `Binary64.ofDecimal?` — the nearest double to a decimal
- `Binary64.mul?`, `Binary64.div?` — product and quotient, rounded once
-/

namespace TextTemplate

/-- The place of the first magnitude that is too large to be finite. -/
def infinityPlace : Nat := 2047 * Nat.pow 2 52

/-- A finite double: `magnitude` is its place among the non-negative doubles. -/
structure Binary64 where
  negative : Bool
  magnitude : Nat
  finite : magnitude < infinityPlace
  deriving DecidableEq, Repr

namespace Binary64

/-- The units in one: units are the least positive double, 2⁻¹⁰⁷⁴. -/
def unitsPerOne : Nat := Nat.pow 2 1074

/-- The units of the magnitude at a place: below 2⁵² the place itself, and from there on 53
significant bits shifted by the exponent. -/
def unitsAt (place : Nat) : Nat :=
  if place < Nat.pow 2 52 then place
  else (Nat.pow 2 52 + place % Nat.pow 2 52) * Nat.pow 2 (place / Nat.pow 2 52 - 1)

/-- The magnitude as a number of units. -/
def units (x : Binary64) : Nat :=
  unitsAt x.magnitude

/-- Zero with the given sign. -/
def zero (negative : Bool) : Binary64 :=
  ⟨negative, 0, by decide⟩

/-- Whether the number is zero, of either sign. -/
def isZero (x : Binary64) : Bool :=
  x.magnitude == 0

/-- The quotient rounded to the nearest whole number, a half to the even one. -/
def divRound (num den : Nat) : Nat :=
  let quotient := num / den
  let double := 2 * (num % den)
  if den < double || (double == den && quotient % 2 == 1) then quotient + 1 else quotient

/-- The place of the magnitude nearest to `num / den` units: the quotient is rounded to 53
significant bits, or to a whole number of units where it has fewer. -/
def nearestPlace (num den : Nat) : Nat :=
  let shift := Nat.log2 (num / den) - 52
  shift * Nat.pow 2 52 + divRound num (den * Nat.pow 2 shift)

/-- The double nearest to `num / den` units, ties to the even one, if it is finite. -/
def ofUnits? (negative : Bool) (num den : Nat) : Option Binary64 :=
  let place := nearestPlace num den
  if h : place < infinityPlace then some ⟨negative, place, h⟩ else none

/-- The double nearest to the decimal `digits · 10 ^ -places`, if it is finite. -/
def ofDecimal? (negative : Bool) (digits places : Nat) : Option Binary64 :=
  ofUnits? negative (digits * unitsPerOne) (Nat.pow 10 places)

/-- The double nearest to a whole number, if it is finite. -/
def ofNat? (negative : Bool) (n : Nat) : Option Binary64 :=
  ofDecimal? negative n 0

/-- The product of two doubles, rounded once, with the sign of the first. -/
def mul? (x y : Binary64) : Option Binary64 :=
  ofUnits? x.negative (x.units * y.units) unitsPerOne

/-- The quotient of two doubles, rounded once, with the sign of the first. -/
def div? (x y : Binary64) : Option Binary64 :=
  ofUnits? x.negative (x.units * unitsPerOne) y.units

end Binary64

end TextTemplate

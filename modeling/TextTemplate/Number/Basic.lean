import TextTemplate.Number.Layout

/-!
# Numbers

A number in data or in a template is a whole number or a double; the two are told apart by how they
are written, and print differently.

## Main definitions

- `Number` — whole numbers and doubles
- `Number.display` — the text a number interpolates as
- `Number.compact` — the text of a number inside the text of a collection
-/

namespace TextTemplate

/-- A whole number or a double. -/
inductive Number
  | integer (n : Int)
  | float (x : Binary64)
  deriving DecidableEq, Repr

namespace Number

/-- A double by itself is written out in plain decimals, and a half goes up. -/
def displayStyle : FloatStyle := ⟨.upper, none, false⟩

/-- A double inside a collection keeps its point, and takes an exponent below 10⁻⁵ and from 10¹⁶. -/
def compactStyle : FloatStyle := ⟨.even, some (-5, 16), true⟩

/-- Whether a whole number has 64 bits with its sign: from -2⁶³ up to, but not with, 2⁶³. -/
def isSigned64 (n : Int) : Bool :=
  -0x8000000000000000 ≤ n && n < 0x8000000000000000

/-- Whether the number is zero, of either kind and sign. -/
def isZero : Number → Bool
  | integer n => n == 0
  | float x => x.isZero

/-- The decimal text of a whole number. -/
def integerText : Int → String
  | .ofNat n => String.ofList (Nat.toDigits 10 n)
  | .negSucc n => String.ofList ('-' :: Nat.toDigits 10 (n + 1))

/-- The text a number interpolates as. -/
def display : Number → String
  | integer n => integerText n
  | float x => x.text displayStyle

/-- The text of a number inside the text of a collection. -/
def compact : Number → String
  | integer n => integerText n
  | float x => x.text compactStyle

end Number

end TextTemplate

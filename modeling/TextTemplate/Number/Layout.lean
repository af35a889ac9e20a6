import TextTemplate.Number.Shortest

/-!
# Texts of doubles

How the shortest decimal of a double is laid out: with or without an exponent, with or without a
point behind a whole number.

## Main definitions

- `FloatStyle` — the decisions of a layout
- `Binary64.text` — the text of a double in a style
-/

namespace TextTemplate

/-- The decisions of a layout: which of two equally near decimals is taken, the exponents of the
scientific form that are written in plain decimals (from the first up to the second, or all of
them), and whether a whole number keeps a point and a zero. -/
structure FloatStyle where
  tie : Tie
  positional : Option (Int × Int)
  keepsPoint : Bool

namespace Decimal

/-- The digits, most significant first. -/
def digitChars (d : Decimal) : List Char :=
  Nat.toDigits 10 d.digits

/-- The exponent of the scientific form, which has one digit before the point. -/
def leadingExponent (d : Decimal) : Int :=
  (d.digitChars.length : Int) - 1 + d.exponent

/-- A decimal written out without an exponent. -/
def positional (keepsPoint : Bool) (d : Decimal) : List Char :=
  let digits := d.digitChars
  match d.exponent with
  | .ofNat zeros =>
    digits ++ List.replicate zeros '0' ++ if keepsPoint then ['.', '0'] else []
  | .negSucc n =>
    let places := n + 1
    if places < digits.length then
      digits.take (digits.length - places) ++ '.' :: digits.drop (digits.length - places)
    else '0' :: '.' :: (List.replicate (places - digits.length) '0' ++ digits)

/-- A decimal with one digit before the point and a signed exponent behind it. -/
def scientific (d : Decimal) : List Char :=
  let mantissa := match d.digitChars with
    | [] => []
    | [digit] => [digit]
    | digit :: rest => digit :: '.' :: rest
  let exponent := d.leadingExponent
  let sign := if exponent < 0 then '-' else '+'
  mantissa ++ 'e' :: sign :: Nat.toDigits 10 exponent.natAbs

/-- A decimal in a style. -/
def layout (style : FloatStyle) (d : Decimal) : List Char :=
  let isPositional := match style.positional with
    | none => true
    | some (least, bound) => least ≤ d.leadingExponent && d.leadingExponent < bound
  if isPositional then d.positional style.keepsPoint else d.scientific

end Decimal

/-- The text of a double in a style; zero keeps its sign. -/
def Binary64.text (style : FloatStyle) (x : Binary64) : String :=
  let sign := if x.negative then ['-'] else []
  let digits :=
    if x.isZero then (if style.keepsPoint then ['0', '.', '0'] else ['0'])
    else (x.shortest style.tie).layout style
  String.ofList (sign ++ digits)

end TextTemplate

/-!
# Decimal digits

## Main definitions

- `digitValue`, `decimalValue` — the value of one decimal digit, and of a row of them
- `natural?` — the natural number that a text spells with digits alone
-/

namespace TextTemplate.Text

/-- The value of a decimal digit. -/
def digitValue (c : Char) : Nat :=
  c.toNat - '0'.toNat

/-- The value of decimal digits. -/
def decimalValue (digits : List Char) : Nat :=
  digits.foldl (fun n c => 10 * n + digitValue c) 0

@[simp]
theorem decimalValue_nil : decimalValue [] = 0 := rfl

/-- One more digit is worth ten times what was there, and itself. -/
theorem decimalValue_append_singleton (digits : List Char) (c : Char) :
    decimalValue (digits ++ [c]) = 10 * decimalValue digits + digitValue c := by
  simp [decimalValue]

/-- The natural number that a text spells if it is made of decimal digits, leading zeros allowed. -/
def natural? (cs : List Char) : Option Nat :=
  if !cs.isEmpty && cs.all Char.isDigit then some (decimalValue cs) else none

end TextTemplate.Text

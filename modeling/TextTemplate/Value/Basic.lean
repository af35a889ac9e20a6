import TextTemplate.Number.Basic
import TextTemplate.Text.Digits

/-!
# Data values

What templates are rendered against: null, booleans, numbers, texts, sequences and keyed
collections. A keyed collection keeps its members in the order in which they were given.

## Main definitions

- `Value` — a data value
- `Value.isTruthy` — the truth of a value
- `Value.lookup` — one member by name or position
- `Value.entries?` — the members of a collection in order
-/

namespace TextTemplate

open Text

/-- A data value. -/
inductive Value
  | null
  | boolean (b : Bool)
  | number (n : Number)
  | text (s : String)
  | sequence (items : List Value)
  | keyed (members : List (String × Value))
  deriving Repr, Inhabited

/-- The members of a collection: by position, or by key in insertion order. -/
inductive Entries
  | sequence (items : List Value)
  | keyed (members : List (String × Value))

namespace Value

/-- A whole number as a value. -/
def ofNat (n : Nat) : Value :=
  number (.integer n)

/-- Null, false, zeros, the empty text and empty collections are false, everything else is true. -/
def isTruthy : Value → Bool
  | null => false
  | boolean b => b
  | number n => !n.isZero
  | text s => !s.isEmpty
  | sequence items => !items.isEmpty
  | keyed members => !members.isEmpty

/-- The position that a name spells: decimal digits, with an optional plus sign before them. -/
def position? (name : String) : Option Nat :=
  match name.toList with
  | '+' :: digits => natural? digits
  | digits => natural? digits

/-- The member of a collection under a name: by key, or by the position the name spells. -/
def lookup : Value → String → Option Value
  | keyed members, name => members.lookup name
  | sequence items, name => (position? name).bind (items[·]?)
  | _, _ => none

/-- The members of a collection; other values have none to visit. -/
def entries? : Value → Option Entries
  | sequence items => some (.sequence items)
  | keyed members => some (.keyed members)
  | _ => none

end Value

/-- The truth of a value that may be missing: what is missing is false. -/
def Value.isPresentAndTruthy : Option Value → Bool
  | none => false
  | some value => value.isTruthy

end TextTemplate

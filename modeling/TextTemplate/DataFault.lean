import TextTemplate.Text.Digits
import TextTemplate.Text.Split

/-!
# Data that cannot be converted

Data that cannot be turned into a value comes with a message instead. A message may end with a place
in the data, as in `unknown key at line 3 column 4`. The place is told apart from the reason and
written anew, so its numbers lose their leading zeros. Lines are counted from 1: a place on line 0
is no place, and is left out.

## Main definitions

- `DataFault` — a reason, and the place it points at
- `DataFault.ofMessage` — the fault that a message tells of
- `DataFault.message` — its text
-/

namespace TextTemplate

open Text

/-- Why data cannot be converted, and the line and column in the data where that was found. -/
structure DataFault where
  reason : String
  place? : Option (Nat × Nat)
  deriving DecidableEq, Repr

namespace DataFault

/-- The marks of a place: before its line, and between its line and its column. -/
def lineMark : List Char := " at line ".toList

@[inherit_doc lineMark]
def columnMark : List Char := " column ".toList

/-- The number of a line or a column if it has 64 bits. -/
def ordinal? (cs : List Char) : Option Nat :=
  (natural? cs).filter (· < Nat.pow 2 64)

/-- The line and the column that a text spells behind the mark of a line, up to its end. -/
def readPlace? (cs : List Char) : Option (Nat × Nat) :=
  let rest := cs.dropWhile Char.isDigit
  if columnMark.isPrefixOf rest then do
    let line ← ordinal? (cs.takeWhile Char.isDigit)
    let column ← ordinal? (rest.drop columnMark.length)
    pure (line, column)
  else none

/-- The fault that a message tells of. Only behind the last mark of a line there may be a place; if
there is none, all of the message is the reason. -/
def ofMessage (message : String) : DataFault :=
  let parts? : Option (String × Nat × Nat) := do
    let (reason, found) ← cutAtLast lineMark message.toList
    let place ← readPlace? (found.drop lineMark.length)
    pure (String.ofList reason, place)
  match parts? with
  | none => ⟨message, none⟩
  | some (reason, 0, _) => ⟨reason, none⟩
  | some (reason, place) => ⟨reason, some place⟩

/-- The message of a fault. -/
def message (fault : DataFault) : String :=
  match fault.place? with
  | none => fault.reason
  | some (line, column) =>
    fault.reason ++ " at line " ++ toString line ++ " column " ++ toString column

end DataFault

end TextTemplate

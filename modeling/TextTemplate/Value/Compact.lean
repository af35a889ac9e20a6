import TextTemplate.Value.Basic

/-!
# Compact texts of values

The JSON text of a value without any blanks, members in order.

## Main definitions

- `quoteText` — a text in double quotes
- `Value.compact` — the compact text of a value
-/

namespace TextTemplate

/-- A character inside quotes: quotes, backslashes and controls are escaped, nothing else is. -/
def quotedChar (c : Char) : List Char :=
  if c = '"' then ['\\', '"']
  else if c = '\\' then ['\\', '\\']
  else if c = '\x08' then ['\\', 'b']
  else if c = '\t' then ['\\', 't']
  else if c = '\n' then ['\\', 'n']
  else if c = '\x0c' then ['\\', 'f']
  else if c = '\r' then ['\\', 'r']
  else if c.toNat < 0x20 then
    ['\\', 'u', '0', '0', Nat.digitChar (c.toNat / 16), Nat.digitChar (c.toNat % 16)]
  else [c]

/-- A text in double quotes. -/
def quoteText (s : String) : String :=
  String.ofList ('"' :: s.toList.flatMap quotedChar ++ ['"'])

namespace Value

mutual

/-- The compact text of a value. -/
def compact : Value → String
  | null => "null"
  | boolean true => "true"
  | boolean false => "false"
  | number n => n.compact
  | text s => quoteText s
  | sequence items => "[" ++ ",".intercalate (compactItems items) ++ "]"
  | keyed members => "\x7b" ++ ",".intercalate (compactMembers members) ++ "\x7d"

/-- The compact texts of the items of a sequence. -/
def compactItems : List Value → List String
  | [] => []
  | item :: items => item.compact :: compactItems items

/-- The compact texts of the members of a keyed collection. -/
def compactMembers : List (String × Value) → List String
  | [] => []
  | (key, value) :: members => (quoteText key ++ ":" ++ value.compact) :: compactMembers members

end

end Value

end TextTemplate

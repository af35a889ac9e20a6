import TextTemplate.Text.Extending
import TextTemplate.Text.Unprintable

/-!
# Characters in messages

A message shows a character in single quotes and escapes what a reader could not see.

## Main definitions

- `quoteChar` — the quoted form of a character
-/

namespace TextTemplate.Text

/-- A code point in lower-case hexadecimal digits without padding. -/
def hexText (n : Nat) : String :=
  String.ofList (Nat.toDigits 16 n)

/-- A character in single quotes: the quote and the backslash behind a backslash, tab, return,
newline and NUL by their letters, other characters without a shape of their own by code point. -/
def quoteChar (c : Char) : String :=
  let shown :=
    if c = '\'' then "\\'"
    else if c = '\\' then "\\\\"
    else if c = '\t' then "\\t"
    else if c = '\r' then "\\r"
    else if c = '\n' then "\\n"
    else if c = '\x00' then "\\0"
    else if isExtending c || isUnprintable c then "\\u\x7b" ++ hexText c.toNat ++ "\x7d"
    else c.toString
  "'" ++ shown ++ "'"

end TextTemplate.Text

import TextTemplate.Position
import TextTemplate.Value.Compact

/-!
# Tokens

The parts a template is made of: text between tags, the markers that open and close a tag, and what
stands inside a tag.

## Main definitions

- `Token` — a part of a template
- `Lexeme` — a token and where it starts
-/

namespace TextTemplate

/-- A part of a template. The markers of a tag are double when its output is escaped, and triple
when it is not. -/
inductive Token
  | text (s : String)
  | startTag (escaped : Bool)
  | endTag (escaped : Bool)
  | word (s : String)
  | literal (value : Value)
  | comment (s : String)
  | partialRef (name : String)

/-- A token and the place where it starts. -/
structure Lexeme where
  token : Token
  position : Position

/-- A token as messages show it. -/
def Token.shown : Token → String
  | text _ => "static text"
  | startTag true => "`\x7b\x7b`"
  | startTag false => "`\x7b\x7b\x7b`"
  | endTag true => "`\x7d\x7d`"
  | endTag false => "`\x7d\x7d\x7d`"
  | word w => "`" ++ w ++ "`"
  | literal value => "literal " ++ value.compact
  | comment _ => "comment"
  | partialRef name => "partial `" ++ name ++ "`"

end TextTemplate

/-!
# HTML escaping

The five characters that HTML gives a meaning are written as entities, so that a text keeps its
meaning between tags and inside quoted attributes.

## Main definitions

- `entity?` — the entity of a character that needs one
- `escapeHtml` — a text with every such character replaced
-/

namespace TextTemplate.Text

/-- The entity that stands for a character with a meaning in HTML. -/
def entity? (c : Char) : Option String :=
  if c = '&' then some "&amp;"
  else if c = '<' then some "&lt;"
  else if c = '>' then some "&gt;"
  else if c = '"' then some "&quot;"
  else if c = '\'' then some "&#x27;"
  else none

/-- A character as HTML shows it: its entity, or itself. -/
def escapeChar (c : Char) : List Char :=
  match entity? c with
  | some entity => entity.toList
  | none => [c]

/-- A text as HTML shows it, character by character. -/
def escapeHtml (text : String) : String :=
  String.ofList (text.toList.flatMap escapeChar)

@[simp]
theorem escapeHtml_empty : escapeHtml "" = "" := rfl

/-- Each character is escaped by itself. -/
@[simp]
theorem escapeHtml_append (s t : String) : escapeHtml (s ++ t) = escapeHtml s ++ escapeHtml t := by
  simp [escapeHtml]

end TextTemplate.Text

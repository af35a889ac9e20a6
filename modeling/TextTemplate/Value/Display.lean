import TextTemplate.Value.Compact

/-!
# Displayed values

The text a value interpolates as inside a template.

## Main definitions

- `Value.display` — the text of a value
-/

namespace TextTemplate.Value

mutual

/-- The text a value interpolates as: nothing for null, a text as it is, the items of a sequence
joined by commas, the compact text of a keyed collection. -/
def display : Value → String
  | null => ""
  | boolean true => "true"
  | boolean false => "false"
  | number n => n.display
  | text s => s
  | sequence items => ",".intercalate (displayItems items)
  | keyed members => (keyed members).compact

/-- The texts of the items of a sequence. -/
def displayItems : List Value → List String
  | [] => []
  | item :: items => item.display :: displayItems items

end

end TextTemplate.Value

/-!
# Positions in a template

## Main definitions

- `Position` — a place in a source text
- `Position.advance` — the place behind a piece of text
-/

namespace TextTemplate

/-- A place in a source: UTF-8 bytes from 0, lines and columns from 1, a column per character. -/
structure Position where
  offset : Nat
  line : Nat
  column : Nat
  deriving DecidableEq, Repr

namespace Position

/-- The first place of a text. -/
def start : Position := ⟨0, 1, 1⟩

/-- The place behind one character: a newline begins the next line. -/
def after (p : Position) (c : Char) : Position :=
  if c = '\n' then ⟨p.offset + c.utf8Size, p.line + 1, 1⟩
  else ⟨p.offset + c.utf8Size, p.line, p.column + 1⟩

/-- The place behind a piece of text. -/
def advance (p : Position) (cs : List Char) : Position :=
  cs.foldl after p

@[simp]
theorem advance_nil (p : Position) : p.advance [] = p := rfl

@[simp]
theorem advance_cons (p : Position) (c : Char) (cs : List Char) :
    p.advance (c :: cs) = (p.after c).advance cs := rfl

/-- Two pieces of text are passed one after the other. -/
@[simp]
theorem advance_append (p : Position) (cs ds : List Char) :
    p.advance (cs ++ ds) = (p.advance cs).advance ds :=
  List.foldl_append

/-- A place as messages show it. -/
def text (p : Position) : String :=
  toString p.line ++ ":" ++ toString p.column

end Position

end TextTemplate

import TextTemplate.Outline

/-!
# Reading templates

A parser reads a template to its end or its first fault, and can be asked to read on from there.

## Main definitions

- `Parser` — a lexer and a limit to the nesting of blocks
- `Parser.parse` — the nodes up to the end of the source, and the parser behind what was read
- `parseTemplate` — the nodes of a source
-/

namespace TextTemplate

/-- How deeply blocks may nest unless something else is asked for. -/
def defaultBlockDepth : Nat := 64

/-- A place in a source, and the number of blocks that may be open at once. -/
structure Parser where
  lexer : Lexer
  limit : Nat

namespace Parser

/-- A parser at the start of a source. -/
def ofSource (source : String) (limit : Nat) : Parser :=
  ⟨.ofSource source, limit⟩

/-- Adds the items ahead to an outline, up to the end of the source or the first fault. -/
def assemble (limit : Nat) (outline : Outline) (l : Lexer) :
    Except ParseError (List Node) × Lexer :=
  match _ : l.nextItem with
  | (.error e, l') => (.error e, l')
  | (.ok none, l') => (outline.finish, l')
  | (.ok (some item), l') =>
    match outline.add limit item with
    | .error e => (.error e, l')
    | .ok outline => assemble limit outline l'
termination_by l.rest.length
decreasing_by exact Lexer.length_rest_of_nextItem ‹_›

theorem assemble_eq (limit : Nat) (outline : Outline) (l : Lexer) :
    assemble limit outline l =
      match l.nextItem with
      | (.error e, l') => (.error e, l')
      | (.ok none, l') => (outline.finish, l')
      | (.ok (some item), l') =>
        match outline.add limit item with
        | .error e => (.error e, l')
        | .ok outline => assemble limit outline l' := by
  rw [assemble]
  split
  · next h => simp only [h]
  · next h => simp only [h]
  · next h => simp only [h]

/-- The nodes up to the end of the source, and the parser behind what was read. -/
def parse (p : Parser) : Except ParseError (List Node) × Parser :=
  let (result, lexer) := assemble p.limit .empty p.lexer
  (result, { p with lexer })

end Parser

/-- The nodes of a source, with at most `limit` blocks open at once. -/
def parseTemplate (limit : Nat) (source : String) : Except ParseError (List Node) :=
  (Parser.ofSource source limit).parse.1

end TextTemplate

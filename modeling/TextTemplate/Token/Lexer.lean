import TextTemplate.Token.Cover

/-!
# Reading tokens

A lexer is a place in a template together with the tag it stands in, if any. It is read one token at
a time, and can be read on after an error or the end.

## Main definitions

- `Lexer` — a place in a template
- `Lexer.next` — the next token and the lexer behind it
- `Lexer.tokens` — all tokens that follow
- `tokenize` — the tokens of a template
-/

namespace TextTemplate

open Text

/-- Whether a lexer stands between tags, or inside a tag that was opened at a position. -/
inductive Mode
  | text
  | tag (opened : Position)
  deriving DecidableEq, Repr

/-- A place in a template: the text ahead, its position, and the tag around it. -/
structure Lexer where
  rest : List Char
  position : Position
  mode : Mode

namespace Lexer

/-- The start of a template. -/
def ofSource (source : String) : Lexer :=
  ⟨source.toList, .start, .text⟩

/-- The mode behind a token that starts at a position. -/
def modeAfter (mode : Mode) (position : Position) : Token → Mode
  | .startTag _ => .tag position
  | .endTag _ => .text
  | _ => mode

/-- The lexer behind a scan at the text ahead. -/
def behind (l : Lexer) (scan : Scan) : Lexer :=
  ⟨scan.rest, l.position.advance scan.slice, modeAfter l.mode l.position scan.token⟩

/-- The token of a scan at the text ahead, and the lexer behind it. -/
def take (l : Lexer) (scan : Scan) : Lexeme × Lexer :=
  (⟨scan.token, l.position⟩, l.behind scan)

/-- The lexer behind the blanks ahead. -/
def skipBlanks (l : Lexer) : Lexer :=
  { l with
    rest := l.rest.dropWhile isBlank
    position := l.position.advance (l.rest.takeWhile isBlank) }

/-- The next token, if the template has not ended, and the lexer behind it. Inside a tag blanks are
skipped first, also where an error follows; an error leaves the lexer in front of the fault. -/
def next (l : Lexer) : Except LexError (Option Lexeme) × Lexer :=
  match l.mode with
  | .text =>
    match scanText? l.rest with
    | none => (.ok none, l)
    | some scan => (.ok (some (l.take scan).1), (l.take scan).2)
  | .tag opened =>
    let l := l.skipBlanks
    match scanTag opened l.position l.rest with
    | .error e => (.error e, l)
    | .ok scan => (.ok (some (l.take scan).1), (l.take scan).2)

/-- A token takes at least one character. -/
theorem length_rest_of_next {l l' : Lexer} {lexeme : Lexeme}
    (h : l.next = (.ok (some lexeme), l')) : l'.rest.length < l.rest.length := by
  unfold next at h
  split at h
  · split at h
    · simp at h
    · next scan hscan =>
      cases h
      exact (covers_of_scanText? hscan).length_lt
  · simp only at h
    split at h
    · simp at h
    · next scan hscan =>
      cases h
      have hlt := (covers_of_scanTag hscan).length_lt
      have hle := (List.dropWhile_sublist (l := l.rest) isBlank).length_le
      simp only [take, behind]
      exact Nat.lt_of_lt_of_le hlt hle

/-- All tokens up to the end of the template, or the first error. -/
def tokens (l : Lexer) : Except LexError (List Lexeme) :=
  match _ : l.next with
  | (.error e, _) => .error e
  | (.ok none, _) => .ok []
  | (.ok (some lexeme), l') => l'.tokens.map (lexeme :: ·)
termination_by l.rest.length
decreasing_by exact length_rest_of_next ‹_›

theorem tokens_eq (l : Lexer) : l.tokens =
    match l.next with
    | (.error e, _) => .error e
    | (.ok none, _) => .ok []
    | (.ok (some lexeme), l') => l'.tokens.map (lexeme :: ·) := by
  rw [tokens]
  split <;> simp_all

end Lexer

/-- The tokens of a template. -/
def tokenize (source : String) : Except LexError (List Lexeme) :=
  (Lexer.ofSource source).tokens

end TextTemplate

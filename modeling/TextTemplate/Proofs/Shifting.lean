import TextTemplate.Proofs.Simulation

/-!
# The same text further on

A text that stands further on in a source is read as it is read alone, with every position moved to
where the text starts: the offset by the offset there, the line by the lines before it, and the
column by the columns before it, as long as the first line goes on.

## Main definitions

- `Position.shift` — a position of a text that starts at another one
- `LexError.mapPosition`, `ParseError.mapPosition` — the same error at other positions

## Main statements

- `Parser.assemble_shift` — a text is parsed alike wherever it starts, up to these positions
-/

namespace TextTemplate

namespace Position

/-- Where a position of a text lies in a source in which the text starts at `base`. -/
def shift (base p : Position) : Position where
  offset := base.offset + p.offset
  line := base.line + (p.line - 1)
  column := if p.line = 1 then base.column + (p.column - 1) else p.column

/-- A position of a text, and where it lies in a source in which the text starts at `base`. -/
structure Shifted (base p p' : Position) : Prop where
  line : 1 ≤ p.line
  column : 1 ≤ p.column
  eq : p' = base.shift p

theorem shifted_start (base : Position) : Shifted base start base := by
  refine ⟨Nat.le_refl 1, Nat.le_refl 1, ?_⟩
  simp [shift, start]

/-- A position moves on alike in the text and in the source. -/
theorem Shifted.after {base p p' : Position} (c : Char) (h : Shifted base p p') :
    Shifted base (p.after c) (p'.after c) := by
  obtain ⟨offset, line, column⟩ := p
  obtain ⟨hline, hcolumn, rfl⟩ := h
  simp only at hline hcolumn
  by_cases hc : c = '\n'
  · -- The next line begins at its own first column, also behind the first line.
    have hbehind : line ≠ 0 := Nat.ne_of_gt hline
    have hlines : line - 1 + 1 = line := Nat.sub_add_cancel hline
    simp only [Position.after, shift, hc, if_true]
    refine ⟨by simp, by simp, ?_⟩
    simp [shift, hbehind, Nat.add_assoc, hlines]
  · have hcolumns : column - 1 + 1 = column := Nat.sub_add_cancel hcolumn
    simp only [Position.after, shift, hc, if_false]
    refine ⟨hline, by simp, ?_⟩
    by_cases hfirst : line = 1 <;> simp [shift, hfirst, Nat.add_assoc, hcolumns]

end Position

/-- The same error at other positions. -/
def LexError.mapPosition (f : Position → Position) : LexError → LexError
  | unterminated opened => unterminated (f opened)
  | unparseable p found => unparseable (f p) found
  | unterminatedString p => unterminatedString (f p)
  | unexpectedClose p => unexpectedClose (f p)

/-- The same error at other positions. -/
def ParseError.mapPosition (f : Position → Position) : ParseError → ParseError
  | lex e => lex (e.mapPosition f)
  | unexpected found p expected => unexpected found (f p) expected
  | mismatchedBlock name closed opened p => mismatchedBlock name closed (f opened) (f p)
  | unclosedBlock name opened => unclosedBlock name (f opened)
  | strayClose name p => strayClose name (f p)
  | strayElse p => strayElse (f p)
  | duplicateElse p => duplicateElse (f p)
  | arity name p expected found => arity name (f p) expected found
  | mismatchedDelimiters opened => mismatchedDelimiters (f opened)
  | emptyExpression opened => emptyExpression (f opened)
  | unknownDataVariable name p => unknownDataVariable name (f p)
  | nestingTooDeep name p limit => nestingTooDeep name (f p) limit

section

variable {R : Position → Position → Prop} {f : Position → Position}

theorem LexError.Matches.eq_mapPosition (hR : ∀ p p', R p p' → p' = f p) {e e' : LexError}
    (h : e.Matches R e') : e' = e.mapPosition f := by
  cases h with
  | _ hp => rw [hR _ _ hp, LexError.mapPosition]

/-- Where a position decides the one that is related to it, so does an error. -/
theorem ParseError.Matches.eq_mapPosition (hR : ∀ p p', R p p' → p' = f p) {e e' : ParseError}
    (h : e.Matches R e') : e' = e.mapPosition f := by
  cases h with
  | lex he => rw [he.eq_mapPosition hR, ParseError.mapPosition]
  | mismatchedBlock hopened hp => rw [hR _ _ hopened, hR _ _ hp, ParseError.mapPosition]
  | _ hp => rw [hR _ _ hp, ParseError.mapPosition]

end

/-- A text is parsed alike wherever it starts, with its errors at the positions it has there. -/
theorem Parser.assemble_shift (limit : Nat) (cs : List Char) (base : Position) :
    (assemble limit .empty ⟨cs, base, .text⟩).1 =
      (assemble limit .empty ⟨cs, .start, .text⟩).1.mapError (·.mapPosition base.shift) := by
  have halike : Lexer.Alike (Position.Shifted base) ⟨cs, .start, .text⟩ ⟨cs, base, .text⟩ :=
    ⟨rfl, Position.shifted_start base, .text⟩
  have hagree := halike.agree_assemble (fun _ _ c h => h.after c) grows_eq
    (Outline.matches_empty grows_eq) limit
  generalize (assemble limit .empty ⟨cs, .start, .text⟩).1 = fresh at hagree ⊢
  generalize (assemble limit .empty ⟨cs, base, .text⟩).1 = shifted at hagree ⊢
  cases hagree with
  | error he =>
    rw [he.eq_mapPosition fun _ _ h => h.eq]
    rfl
  | ok heq =>
    rw [heq]
    rfl

end TextTemplate

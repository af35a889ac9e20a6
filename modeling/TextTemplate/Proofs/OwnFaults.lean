import TextTemplate.Proofs.FirstFault
import TextTemplate.Proofs.Token.Brackets

/-!
# Faults of single tags

What is wrong with a tag by itself is said of its tokens: one of them is too many, or is no argument,
or spells no path, or their number is wrong. The parser guards itself against rows of tokens that no
lexer gives as well, but what stands in the tags of a source never trips these guards. A tag that
is at fault has been read to its end marker, unless the lexer itself fails in it.

## Main definitions

- `Expectation.IsGuard` — what the parser expects where a lexer gives nothing else
- `ParseError.IsOwn` — the faults that neither the lexer nor a guard finds
- `FailsOnly` — results that fail in certain ways only

## Main statements

- `Item.failsOnly_ofTag` — what stands in a tag of a source has faults of its own only
- `Lexer.nextItem_eq_error` — the ways to read no item, and the lexer behind each
-/

namespace TextTemplate

/-- What the parser expects of the kind of a token where a lexer gives no other kind. -/
def Expectation.IsGuard : Expectation → Prop
  | textOrTag | tagEnd | endOfComment | tagHead => True
  | _ => False

/-- The faults that neither the lexer nor a guard finds. -/
def ParseError.IsOwn : ParseError → Prop
  | lex _ => False
  | unexpected _ _ expected => ¬ expected.IsGuard
  | _ => True

/-- A result that fails in certain ways only. -/
def FailsOnly {α : Type} (P : ParseError → Prop) (result : Except ParseError α) : Prop :=
  ∀ e, result = .error e → P e

section

variable {α β : Type} {P : ParseError → Prop}

theorem failsOnly_ok (a : α) : FailsOnly P (.ok a : Except ParseError α) := by
  rintro e ⟨⟩

theorem failsOnly_error {e : ParseError} (h : P e) :
    FailsOnly P (.error e : Except ParseError α) := by
  rintro _ ⟨⟩
  exact h

theorem FailsOnly.map {result : Except ParseError α} (h : FailsOnly P result) (f : α → β) :
    FailsOnly P (result.map f) := by
  cases result with
  | error e => exact failsOnly_error (h e rfl)
  | ok a => exact failsOnly_ok (f a)

end

-- ════════════════════════════════════════════════════════════════════════
-- What stands in a tag
-- ════════════════════════════════════════════════════════════════════════

theorem Path.failsOnly_readAt (word : String) (position : Position) :
    FailsOnly ParseError.IsOwn (Path.readAt word position) := by
  unfold Path.readAt
  split
  · exact failsOnly_ok _
  · next e _ =>
    cases e with
    | malformed => exact failsOnly_error id
    | unknownVariable name => exact failsOnly_error trivial

theorem Param.failsOnly_ofLexeme (lexeme : Lexeme) :
    FailsOnly ParseError.IsOwn (Param.ofLexeme lexeme) := by
  unfold Param.ofLexeme
  split
  · exact failsOnly_ok _
  · split
    · exact failsOnly_error id
    · exact (Path.failsOnly_readAt _ _).map _
  · exact failsOnly_error id

theorem Param.failsOnly_ofLexemes (lexemes : List Lexeme) :
    FailsOnly ParseError.IsOwn (Param.ofLexemes lexemes) := by
  induction lexemes with
  | nil => exact failsOnly_ok _
  | cons lexeme lexemes ih =>
    have hfirst := Param.failsOnly_ofLexeme lexeme
    unfold Param.ofLexemes
    split
    · next e he => exact failsOnly_error (hfirst e he)
    · exact ih.map _

theorem BlockKind.failsOnly_ofName (name : String) (position : Position)
    (arguments : List Param) :
    FailsOnly ParseError.IsOwn (BlockKind.ofName name position arguments) := by
  unfold BlockKind.ofName
  split
  · split
    · exact failsOnly_ok _
    · exact failsOnly_error trivial
  · split
    · exact failsOnly_error id
    · split
      · exact (Path.failsOnly_readAt _ _).map _
      · exact failsOnly_ok _

namespace Item

theorem failsOnly_alone {expected : Expectation} (hexpected : ¬ expected.IsGuard)
    (extra : List Lexeme) {item : Except ParseError Item} (h : FailsOnly ParseError.IsOwn item) :
    FailsOnly ParseError.IsOwn (alone extra expected item) := by
  cases extra with
  | nil => exact h
  | cons lexeme extra => exact failsOnly_error hexpected

theorem failsOnly_ofWord (escaped : Bool) (word : String) (position : Position)
    (extra : List Lexeme) :
    FailsOnly ParseError.IsOwn (ofWord escaped word position extra) := by
  have harguments := Param.failsOnly_ofLexemes extra
  unfold ofWord
  split
  · exact failsOnly_alone id extra (failsOnly_ok _)
  split
  · exact failsOnly_alone id extra (failsOnly_ok _)
  · simp only
    split
    · next e he => exact failsOnly_error (harguments e he)
    · exact (BlockKind.failsOnly_ofName _ _ _).map _
  · exact failsOnly_alone id extra ((Path.failsOnly_readAt _ _).map _)
  · split
    · exact (Path.failsOnly_readAt _ _).map _
    · exact harguments.map _

theorem failsOnly_ofPartial (name : String) (opened : Position) (extra : List Lexeme) :
    FailsOnly ParseError.IsOwn (ofPartial name opened extra) := by
  unfold ofPartial
  split
  · exact failsOnly_ok _
  · exact (Param.failsOnly_ofLexeme _).map _
  · exact failsOnly_error trivial

/-- What stands in a tag of a source has faults of its own only: its first token can begin a tag,
and nothing stands behind a comment. -/
theorem failsOnly_ofTag (escaped : Bool) (opened : Position) {inner : List Lexeme}
    (h : Enclosed (inner.map Lexeme.token)) :
    FailsOnly ParseError.IsOwn (ofTag escaped opened inner) := by
  cases inner with
  | nil => exact failsOnly_error trivial
  | cons head extra =>
    obtain ⟨token, position⟩ := head
    cases token with
    | text | startTag | endTag => exact (h.isInner _ List.mem_cons_self).elim
    | word word => exact failsOnly_ofWord escaped word position extra
    | literal value => exact failsOnly_alone id extra (failsOnly_ok _)
    | partialRef name => exact failsOnly_ofPartial name opened extra
    | comment s =>
      rw [List.map_cons] at h
      generalize htokens : Token.comment s :: extra.map Lexeme.token = tokens at h
      cases h with
      | nil => cases htokens
      | comment s' =>
        obtain rfl : extra = [] := by simpa using (List.cons.inj htokens).2
        exact failsOnly_ok _
      | cons _ hother _ => exact absurd (List.cons.inj htokens).1.symm (hother s)

end Item

-- ════════════════════════════════════════════════════════════════════════
-- Reading a tag
-- ════════════════════════════════════════════════════════════════════════

/-- From between tags, no item is read where the lexer fails in a tag, and goes on to fail, or where
a tag is closed by the other marker or has a fault of its own; then the lexer stands behind it. -/
theorem Lexer.nextItem_eq_error {l l' : Lexer} {e : ParseError} (hmode : l.mode = .text)
    (h : l.nextItem = (.error e, l')) :
    (∃ fault, e = .lex fault ∧ l'.next = (.error fault, l')) ∨
      ∃ escaped closed opened closing inner, (∀ lexeme ∈ inner, lexeme.token.IsInner) ∧
        l.Yields (Lexeme.tag escaped closed opened closing inner) l' ∧ l'.mode = .text ∧
        e.IsOwn := by
  obtain hnext | ⟨⟨token, opened⟩, l₁, hnext, hlexeme⟩ := next_of_mode_text hmode
  · simp [nextItem, hnext] at h
  obtain ⟨s, rfl, -⟩ | ⟨escaped, rfl, hmode₁⟩ := hlexeme
  · simp [nextItem_of_text hnext] at h
  obtain ⟨inner, hinner, ⟨closed, closing, l₂, hrun, hmode₂⟩ | ⟨fault, l₂, l₃, hrun, herror⟩⟩ :=
    exists_inner_of_mode_tag hmode₁
  · have htag : l.Yields (Lexeme.tag escaped closed opened closing inner) l₂ := .cons hnext hrun
    have hlexemes := tagLexemes_of_yields escaped opened hinner hrun
    simp only [nextItem, hnext, hlexemes] at h
    by_cases hclosed : closed = escaped
    · subst hclosed
      -- What stands before the end marker is a run that stays in the tag.
      obtain ⟨l₀, hinside, hend⟩ := hrun.split
      have henclosed : Enclosed (inner.map Lexeme.token) := by
        obtain ⟨henclosed, -⟩ | ⟨front, closed', closing', _, _, rfl, -⟩ :=
          hinside.enclosed_or_exists hmode₁
        · exact henclosed
        · have hend : (Token.endTag closed').IsInner := hinner ⟨_, closing'⟩ (by simp)
          exact hend.elim
      simp only [if_true, Prod.mk.injEq] at h
      obtain ⟨hitem, rfl⟩ := h
      have hown := (Item.failsOnly_ofTag closed opened henclosed).map some
      exact .inr ⟨_, _, _, _, inner, hinner, htag, hmode₂, hown e hitem⟩
    · rw [if_neg hclosed] at h
      cases h
      exact .inr ⟨_, _, _, _, inner, hinner, htag, hmode₂, trivial⟩
  · have hlexemes := tagLexemes_of_error escaped opened hinner hrun herror
    simp only [nextItem, hnext, hlexemes, Prod.mk.injEq] at h
    obtain ⟨he, rfl⟩ := h
    cases he
    exact .inl ⟨fault, rfl, next_of_next_error herror⟩

end TextTemplate

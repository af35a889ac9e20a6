import TextTemplate.Proofs.Token.Spelling

/-!
# Runs of a lexer

What one call of a lexer can do, and what calls in a row give. A call outside a tag reads a text or
opens a tag; a call inside one closes it, reads a token that stands in tags, or fails. An error and
the end of the source are final.

## Main definitions

- `Lexer.Yields` — the lexemes that calls in a row give
- `Lexer.calls`, `Lexer.found` — the outcomes of a number of calls, and the lexemes among them
-/

namespace TextTemplate

open Text

theorem map_eq_ok_iff {ε α β : Type} {f : α → β} {x : Except ε α} {b : β} :
    x.map f = .ok b ↔ ∃ a, x = .ok a ∧ f a = b := by
  cases x <;> simp [Except.map]

namespace Lexer

theorem next_of_end {l : Lexer} (hmode : l.mode = .text) (hscan : scanText? l.rest = none) :
    l.next = (.ok none, l) := by
  simp only [next, hmode, hscan]

theorem next_of_scanText? {l : Lexer} {scan : Scan} (hmode : l.mode = .text)
    (hscan : scanText? l.rest = some scan) :
    l.next = (.ok (some ⟨scan.token, l.position⟩), l.behind scan) := by
  simp only [next, hmode, hscan, take]

theorem next_of_scanTag {l : Lexer} {opened : Position} {scan : Scan} (hmode : l.mode = .tag opened)
    (hscan : scanTag opened l.skipBlanks.position l.skipBlanks.rest = .ok scan) :
    l.next = (.ok (some ⟨scan.token, l.skipBlanks.position⟩), l.skipBlanks.behind scan) := by
  simp only [next, hmode, hscan, take]

theorem next_of_scanTag_error {l : Lexer} {opened : Position} {e : LexError}
    (hmode : l.mode = .tag opened)
    (hscan : scanTag opened l.skipBlanks.position l.skipBlanks.rest = .error e) :
    l.next = (.error e, l.skipBlanks) := by
  simp only [next, hmode, hscan]

/-- A call that gives a lexeme has scanned it: at once outside a tag, behind blanks inside one. -/
theorem next_eq_some {l l' : Lexer} {lexeme : Lexeme} (h : l.next = (.ok (some lexeme), l')) :
    (l.mode = .text ∧ ∃ scan, scanText? l.rest = some scan ∧ (lexeme, l') = l.take scan) ∨
    ∃ opened scan, l.mode = .tag opened ∧
      scanTag opened l.skipBlanks.position l.skipBlanks.rest = .ok scan ∧
      (lexeme, l') = l.skipBlanks.take scan := by
  unfold next at h
  split at h
  · next hmode =>
    split at h
    · simp at h
    · next scan hscan =>
      cases h
      exact .inl ⟨hmode, scan, hscan, rfl⟩
  · next opened hmode =>
    simp only at h
    split at h
    · simp at h
    · next scan hscan =>
      cases h
      exact .inr ⟨opened, scan, hmode, hscan, rfl⟩

/-- A marker changes the mode of a lexer, and any other token keeps it. -/
theorem mode_of_next {l l' : Lexer} {lexeme : Lexeme} (h : l.next = (.ok (some lexeme), l')) :
    l'.mode = modeAfter l.mode lexeme.position lexeme.token := by
  obtain ⟨_, scan, _, htake⟩ | ⟨_, scan, _, _, htake⟩ := next_eq_some h
  all_goals
    cases htake
    rfl

/-- The end of the source is reported outside tags only, where nothing is left. -/
theorem next_eq_none {l l' : Lexer} (h : l.next = (.ok none, l')) :
    l.mode = .text ∧ l.rest = [] ∧ l' = l := by
  unfold next at h
  split at h
  · next hmode =>
    split at h
    · next hscan =>
      cases h
      refine ⟨hmode, ?_, rfl⟩
      unfold scanText? at hscan
      split at hscan
      · assumption
      all_goals simp at hscan
    · simp at h
  · simp only at h
    split at h <;> simp at h

/-- A call fails inside a tag only, and leaves the lexer behind the blanks ahead. -/
theorem next_eq_error {l l' : Lexer} {e : LexError} (h : l.next = (.error e, l')) :
    ∃ opened, l.mode = .tag opened ∧
      scanTag opened l.skipBlanks.position l.skipBlanks.rest = .error e ∧ l' = l.skipBlanks := by
  unfold next at h
  split at h
  · split at h <;> simp at h
  · next opened hmode =>
    simp only at h
    split at h
    · next e' hscan =>
      cases h
      exact ⟨opened, hmode, hscan, rfl⟩
    · simp at h

/-- Outside a tag a call reports the end, reads a text, or opens a tag. -/
theorem next_of_mode_text {l : Lexer} (hmode : l.mode = .text) :
    l.next = (.ok none, l) ∨
    ∃ lexeme l', l.next = (.ok (some lexeme), l') ∧
      ((∃ s, lexeme.token = .text s ∧ l'.mode = .text) ∨
        ∃ escaped, lexeme.token = .startTag escaped ∧ l'.mode = .tag lexeme.position) := by
  cases hscan : scanText? l.rest with
  | none => exact .inl (by simp only [next, hmode, hscan])
  | some scan =>
    refine .inr ⟨_, _, by simp only [next, hmode, hscan]; rfl, ?_⟩
    obtain ⟨s, htoken⟩ | ⟨escaped, htoken⟩ := (token_of_scanText? hscan).1
    · exact .inl ⟨s, htoken, by simp only [take, behind, htoken, modeAfter, hmode]⟩
    · exact .inr ⟨escaped, htoken, by simp only [take, behind, htoken, modeAfter]⟩

/-- Inside a tag a call fails, closes the tag, or reads a token that stands in tags. -/
theorem next_of_mode_tag {l : Lexer} {opened : Position} (hmode : l.mode = .tag opened) :
    (∃ e, l.next = (.error e, l.skipBlanks)) ∨
    ∃ lexeme l', l.next = (.ok (some lexeme), l') ∧
      ((∃ escaped, lexeme.token = .endTag escaped ∧ l'.mode = .text) ∨
        lexeme.token.IsInner ∧ l'.mode = .tag opened) := by
  cases hscan : scanTag opened l.skipBlanks.position l.skipBlanks.rest with
  | error e => exact .inl ⟨e, by simp only [next, hmode, hscan]⟩
  | ok scan =>
    refine .inr ⟨_, _, by simp only [next, hmode, hscan]; rfl, ?_⟩
    have hmode' : l.skipBlanks.mode = .tag opened := hmode
    obtain ⟨escaped, htoken⟩ | hinner := (token_of_scanTag hscan).1
    · exact .inl ⟨escaped, htoken, by simp only [take, behind, htoken, modeAfter]⟩
    · refine .inr ⟨hinner, ?_⟩
      simp only [take, behind]
      cases htoken : scan.token <;> simp only [htoken, Token.IsInner] at hinner <;>
        exact hmode'

theorem skipBlanks_of_head {l : Lexer} {c : Char} {cs : List Char} (hrest : l.rest = c :: cs)
    (hc : isBlank c = false) : l.skipBlanks = l := by
  obtain ⟨rest, position, mode⟩ := l
  obtain rfl : rest = c :: cs := hrest
  simp [skipBlanks, hc, Position.advance_nil]

theorem skipBlanks_skipBlanks (l : Lexer) : l.skipBlanks.skipBlanks = l.skipBlanks := by
  have hdrop : (l.rest.dropWhile isBlank).dropWhile isBlank = l.rest.dropWhile isBlank := by
    induction l.rest with
    | nil => rfl
    | cons c cs ih =>
      by_cases hc : isBlank c = true
      · rw [List.dropWhile_cons_of_pos hc, ih]
      · rw [List.dropWhile_cons_of_neg hc, List.dropWhile_cons_of_neg hc]
  have htake : (l.rest.dropWhile isBlank).takeWhile isBlank = [] := by
    have happend := List.takeWhile_append_dropWhile (p := isBlank)
      (l := l.rest.dropWhile isBlank)
    rw [hdrop] at happend
    exact List.append_left_eq_self.1 happend
  simp only [skipBlanks, hdrop, htake, Position.advance_nil]

/-- After an error every call gives the same error. -/
theorem next_of_next_error {l l' : Lexer} {e : LexError} (h : l.next = (.error e, l')) :
    l'.next = (.error e, l') := by
  obtain ⟨opened, hmode, hscan, rfl⟩ := next_eq_error h
  have hmode' : l.skipBlanks.mode = .tag opened := hmode
  simp only [next, hmode', skipBlanks_skipBlanks, hscan]

-- ════════════════════════════════════════════════════════════════════════
-- Calls in a row
-- ════════════════════════════════════════════════════════════════════════

/-- Calls in a row from the first lexer give lexemes, and leave the second lexer behind. -/
inductive Yields : Lexer → List Lexeme → Lexer → Prop
  | nil (l : Lexer) : Yields l [] l
  | cons {l l₁ l₂ : Lexer} {lexeme : Lexeme} {lexemes : List Lexeme} :
      l.next = (.ok (some lexeme), l₁) → Yields l₁ lexemes l₂ → Yields l (lexeme :: lexemes) l₂

theorem Yields.single {l l' : Lexer} {lexeme : Lexeme} (h : l.next = (.ok (some lexeme), l')) :
    l.Yields [lexeme] l' :=
  .cons h (.nil l')

theorem Yields.append {l l₁ l₂ : Lexer} {xs ys : List Lexeme} (hx : l.Yields xs l₁)
    (hy : l₁.Yields ys l₂) : l.Yields (xs ++ ys) l₂ := by
  induction hx with
  | nil => exact hy
  | cons hnext _ ih => exact .cons hnext (ih hy)

/-- A run stops between any two of its lexemes. -/
theorem Yields.split {l l₂ : Lexer} {xs ys : List Lexeme} (h : l.Yields (xs ++ ys) l₂) :
    ∃ l₁, l.Yields xs l₁ ∧ l₁.Yields ys l₂ := by
  induction xs generalizing l with
  | nil => exact ⟨l, .nil l, h⟩
  | cons x xs ih =>
    cases h with
    | cons hnext hrest =>
      obtain ⟨l₁, hx, hy⟩ := ih hrest
      exact ⟨l₁, .cons hnext hx, hy⟩

/-- A source has tokens when calls in a row reach its end. -/
theorem tokens_eq_ok_iff {l : Lexer} {lexemes : List Lexeme} :
    l.tokens = .ok lexemes ↔ ∃ l', l.Yields lexemes l' ∧ l'.next = (.ok none, l') := by
  constructor
  · intro h
    fun_induction tokens l generalizing lexemes with
    | case1 => simp at h
    | case2 l l' hnext =>
      cases h
      obtain ⟨_, _, rfl⟩ := next_eq_none hnext
      exact ⟨l', .nil l', hnext⟩
    | case3 l lexeme l₁ hnext ih =>
      obtain ⟨more, hmore, rfl⟩ := map_eq_ok_iff.1 h
      obtain ⟨l', hrun, hend⟩ := ih hmore
      exact ⟨l', .cons hnext hrun, hend⟩
  · rintro ⟨l', hrun, hend⟩
    induction hrun with
    | nil l => rw [tokens_eq, hend]
    | cons hnext _ ih =>
      rw [tokens_eq, hnext]
      simp only [ih hend, Except.map]

/-- The outcomes of a number of calls, each from where the one before it stopped. -/
def calls : Nat → Lexer → List (Except LexError (Option Lexeme))
  | 0, _ => []
  | n + 1, l => l.next.1 :: calls n l.next.2

/-- The lexemes among the outcomes of calls. -/
def found (outcomes : List (Except LexError (Option Lexeme))) : List Lexeme :=
  outcomes.filterMap fun
    | .ok lexeme? => lexeme?
    | .error _ => none

theorem calls_of_next_self {l : Lexer} {outcome : Except LexError (Option Lexeme)}
    (h : l.next = (outcome, l)) (n : Nat) : calls n l = List.replicate n outcome := by
  induction n with
  | zero => rfl
  | succ n ih => rw [calls, h, ih, List.replicate_succ]

/-- The lexemes among any number of calls are those of calls in a row from the first; an error
among them comes behind all of the lexemes. -/
theorem yields_found_calls (n : Nat) (l : Lexer) :
    ∃ l', l.Yields (found (calls n l)) l' ∧
      ∀ e, .error e ∈ calls n l → l'.next.1 = .error e := by
  induction n generalizing l with
  | zero => exact ⟨l, .nil l, by simp [calls]⟩
  | succ n ih =>
    rw [calls]
    cases hnext : l.next with
    | mk outcome l₁ =>
      cases outcome with
      | error e =>
        -- The error is repeated for ever, so no lexeme comes behind it.
        have hmore := calls_of_next_self (next_of_next_error hnext) n
        refine ⟨l, ?_, ?_⟩
        · simp only [hmore, found, List.filterMap_cons, List.filterMap_replicate]
          exact .nil l
        · intro e' he'
          simp only [hmore, List.mem_cons, List.mem_replicate] at he'
          rw [hnext]
          obtain he' | ⟨_, he'⟩ := he' <;> exact he'.symm
      | ok lexeme? =>
        cases lexeme? with
        | none =>
          obtain ⟨_, _, rfl⟩ := next_eq_none hnext
          have hmore := calls_of_next_self hnext n
          refine ⟨l₁, ?_, ?_⟩
          · simp only [hmore, found, List.filterMap_cons, List.filterMap_replicate]
            exact .nil l₁
          · intro e' he'
            simp [hmore] at he'
        | some lexeme =>
          obtain ⟨l', hrun, herror⟩ := ih l₁
          refine ⟨l', .cons hnext hrun, ?_⟩
          intro e' he'
          exact herror e' (by simpa using he')

end Lexer

end TextTemplate

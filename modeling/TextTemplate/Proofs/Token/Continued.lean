import Mathlib.Data.List.Basic
import TextTemplate.Proofs.Token.Exchange

/-!
# Texts that go on

Calls of a lexer do not see what comes far behind the text that they read: a tag that is closed, and
a text up to a tag, are read alike whatever is put behind the source. Only a text at the end of the
source goes on with what is put behind it, and two closing braces with a third.

## Main definitions

- `Lexer.extend` — a lexer with more text behind
- `Token.EndsBefore` — a token that is read alike with more text behind
-/

namespace TextTemplate

open Text

-- ════════════════════════════════════════════════════════════════════════
-- Texts without markers
-- ════════════════════════════════════════════════════════════════════════

namespace Text

/-- No marker is found in a text that has none. -/
theorem cutAt_eq_none_iff {marker cs : List Char} (hne : marker ≠ []) :
    cutAt marker cs = none ↔ ¬ marker <:+: cs := by
  induction cs with
  | nil => simp [cutAt, hne]
  | cons c cs ih =>
    rw [List.infix_cons_iff, not_or, ← ih, ← List.isPrefixOf_iff_prefix]
    by_cases hprefix : marker.isPrefixOf (c :: cs) = true
    · simp [cutAt, hprefix]
    · simp [cutAt, hprefix]

/-- A text in which no marker begins does not hide the first one behind it. -/
theorem cutAt_append_of_forall {marker cs more : List Char}
    (h : ∀ ds, ds ≠ [] → ds <:+ cs → ¬ marker <+: ds ++ more) :
    cutAt marker (cs ++ more) =
      (cutAt marker more).map fun (before, found) => (cs ++ before, found) := by
  induction cs with
  | nil =>
    rw [List.nil_append]
    cases cutAt marker more <;> rfl
  | cons c cs ih =>
    have hprefix : marker.isPrefixOf (c :: (cs ++ more)) = false := by
      rw [← Bool.not_eq_true, List.isPrefixOf_iff_prefix]
      exact h (c :: cs) (List.cons_ne_nil c cs) List.suffix_rfl
    rw [List.cons_append, cutAt, hprefix,
      ih fun ds hne hsuffix => h ds hne (hsuffix.trans (List.suffix_cons c cs))]
    cases cutAt marker more <;> rfl

/-- A marker of a character and its double does not begin in a text that has none and does not end
with the character. -/
theorem not_pair_prefix_append {m : Char} {cs : List Char} (hne : cs ≠ [])
    (hmarker : ¬ [m, m] <:+: cs) (hlast : cs.getLast? ≠ some m) (more : List Char) :
    ¬ [m, m] <+: cs ++ more := by
  rintro ⟨ds, hds⟩
  match cs, hne, hmarker, hlast, hds with
  | [c], _, _, hlast, hds =>
    have hc : m = c := (List.cons.inj hds).1
    exact hlast (by rw [← hc]; rfl)
  | c :: d :: cs, _, hmarker, _, hds =>
    obtain ⟨hc, hmore⟩ := List.cons.inj hds
    have hd := (List.cons.inj hmore).1
    exact hmarker ⟨[], cs, by rw [← hc, ← hd]; rfl⟩

theorem getLast?_ne_of_suffix {c : Char} {cs ds : List Char} (h : ds <:+ cs)
    (hlast : cs.getLast? ≠ some c) : ds.getLast? ≠ some c := by
  intro hc
  obtain ⟨before, rfl⟩ := h
  rw [List.getLast?_append, hc] at hlast
  exact hlast rfl

theorem cutAt_pair_append {m : Char} {cs : List Char} (hmarker : ¬ [m, m] <:+: cs)
    (hlast : cs.getLast? ≠ some m) (more : List Char) :
    cutAt [m, m] (cs ++ more) =
      (cutAt [m, m] more).map fun (before, found) => (cs ++ before, found) := by
  refine cutAt_append_of_forall fun ds hne hsuffix => ?_
  exact not_pair_prefix_append hne (fun hin => hmarker (hin.trans hsuffix.isInfix))
    (getLast?_ne_of_suffix hsuffix hlast) more

end Text

-- ════════════════════════════════════════════════════════════════════════
-- Tokens that end
-- ════════════════════════════════════════════════════════════════════════

/-- A token that is read alike if more text is put behind what comes behind it: the start of a tag
and a text have something behind them, the end of a tag has no brace put behind it, and any other
token has the brace of its tag behind it. -/
def Token.EndsBefore (rest more : List Char) : Token → Prop
  | text _ | startTag _ => rest ≠ []
  | endTag _ => rest ≠ [] ∨ more.head? ≠ some '\x7d'
  | word _ | literal _ | comment _ | partialRef _ => '\x7d' ∈ rest

theorem Token.IsInner.modeAfter_eq {token : Token} (h : token.IsInner) (mode : Mode)
    (position : Position) : Lexer.modeAfter mode position token = mode := by
  cases token with
  | text | startTag | endTag => exact h.elim
  | _ => rfl

theorem Token.EndsBefore.readAlike {token : Token} {rest more : List Char}
    (h : token.EndsBefore rest more) (hmarker : token.EndsAtMarker rest) :
    token.ReadAlike rest (rest ++ more) := by
  have hparts : '\x7d' ∈ rest → PartsOutsideWords rest (rest ++ more) := by
    intro hmem
    obtain ⟨shared, behind, rfl⟩ := List.append_of_mem hmem
    exact ⟨shared, _, '\x7d', behind ++ more, rfl, by simp, by decide⟩
  cases token with
  | text s => exact ⟨h, (hmarker.resolve_left h).trans (List.prefix_append rest more)⟩
  | startTag escaped =>
    intro hthird
    rwa [List.head?_append_of_ne_nil _ h] at hthird
  | endTag closed =>
    intro hthird
    obtain hne | hmore := h
    · rwa [List.head?_append_of_ne_nil _ hne] at hthird
    · cases rest with
      | nil => exact absurd hthird hmore
      | cons c rest => exact hthird
  | comment s => exact hmarker.trans (List.prefix_append rest more)
  | word | literal | partialRef => exact hparts h

namespace Lexer

/-- The lexer with more text behind. -/
def extend (l : Lexer) (more : List Char) : Lexer :=
  l.before (l.rest ++ more)

/-- A call gives the same lexeme with more text behind, if its token ends before it. -/
theorem next_extend {l l' : Lexer} {lexeme : Lexeme} (h : l.next = (.ok (some lexeme), l'))
    {more : List Char} (hends : lexeme.token.EndsBefore l'.rest more) :
    (l.extend more).next = (.ok (some lexeme), l'.extend more) := by
  obtain ⟨passed, hpassed, hnext⟩ := next_before h
  rw [extend, hpassed, List.append_assoc]
  exact hnext _ (hends.readAlike (endsAtMarker_of_next h))

theorem rest_suffix_of_next {l l' : Lexer} {lexeme : Lexeme}
    (h : l.next = (.ok (some lexeme), l')) : l'.rest <:+ l.rest := by
  obtain ⟨hmode, scan, hscan, htake⟩ | ⟨opened, scan, hmode, hscan, htake⟩ := next_eq_some h
  · cases htake
    exact ⟨scan.slice, (covers_of_scanText? hscan).1⟩
  · cases htake
    have hcovers : scan.slice ++ scan.rest = l.skipBlanks.rest := (covers_of_scanTag hscan).1
    exact (List.suffix_append scan.slice scan.rest).trans
      (hcovers ▸ List.dropWhile_suffix isBlank)

/-- A tag that is closed has a closing brace ahead of everything inside it. -/
theorem mem_rest_of_yields {l l' : Lexer} {lexemes : List Lexeme} {opened : Position}
    (h : l.Yields lexemes l') (hmode : l.mode = .tag opened) (hmode' : l'.mode = .text) :
    '\x7d' ∈ l.rest := by
  induction h with
  | nil =>
    rw [hmode] at hmode'
    cases hmode'
  | @cons l l₁ l₂ lexeme lexemes hnext _ ih =>
    have hmode₁ := mode_of_next hnext
    obtain ⟨hmode₀, -⟩ | ⟨opened', scan, hmode₀, hscan, htake⟩ := next_eq_some hnext
    · rw [hmode] at hmode₀
      cases hmode₀
    · cases htake
      obtain ⟨⟨escaped, htoken⟩ | hinner, hspelled⟩ := token_of_scanTag hscan
      · have hin : '\x7d' ∈ l.skipBlanks.rest := by
          rw [← (covers_of_scanTag hscan).1]
          refine List.mem_append_left _ ?_
          rw [htoken] at hspelled
          cases escaped <;> simp [show scan.slice = _ from hspelled]
        exact (List.dropWhile_sublist _).mem hin
      · refine (rest_suffix_of_next hnext).mem (ih ?_ hmode')
        rw [hmode₁, hmode]
        exact hinner.modeAfter_eq _ _

theorem rest_ne_nil_of_yields {l l' : Lexer} {lexemes : List Lexeme} (h : l.Yields lexemes l')
    (hne : lexemes ≠ []) : l.rest ≠ [] := by
  cases h with
  | nil => exact absurd rfl hne
  | cons hnext _ => exact List.ne_nil_of_length_pos (Nat.zero_lt_of_lt (length_rest_of_next hnext))

/-- A lexeme that stands in tags has been read in one. -/
theorem exists_mode_of_next {l l' : Lexer} {lexeme : Lexeme} (h : l.next = (.ok (some lexeme), l'))
    (hinner : lexeme.token.IsInner) : ∃ opened, l.mode = .tag opened := by
  obtain ⟨hmode, scan, hscan, htake⟩ | ⟨opened, scan, hmode, -, -⟩ := next_eq_some h
  · cases htake
    obtain ⟨s, htoken⟩ | ⟨escaped, htoken⟩ := (token_of_scanText? hscan).1
    all_goals
      rw [htoken] at hinner
      exact hinner.elim
  · exact ⟨opened, hmode⟩

/-- A text has been read outside tags. -/
theorem mode_of_text {l l' : Lexer} {s : String} {p : Position}
    (h : l.next = (.ok (some ⟨.text s, p⟩), l')) : l.mode = .text := by
  cases hmode : l.mode with
  | text => rfl
  | tag opened =>
    obtain ⟨e, herror⟩ | ⟨lexeme, l₁, hnext, ⟨closed, hend, -⟩ | ⟨hinner, -⟩⟩ :=
      next_of_mode_tag hmode
    · rw [herror] at h
      cases h
    all_goals
      rw [hnext] at h
      cases h
    · cases hend
    · exact hinner.elim

/-- Calls in a row that end outside tags give the same lexemes with more text behind, unless the
last is a text at the end of the source. -/
theorem Yields.extend {l l' : Lexer} {lexemes : List Lexeme} (h : l.Yields lexemes l')
    (hmode : l'.mode = .text) {more : List Char} (hmore : more.head? ≠ some '\x7d')
    (hlast : ∀ s position, lexemes.getLast? = some ⟨.text s, position⟩ → l'.rest ≠ []) :
    (l.extend more).Yields lexemes (l'.extend more) := by
  induction h with
  | nil => exact .nil _
  | @cons l l₁ l₂ lexeme lexemes hnext hrest ih =>
    have hmode₁ := mode_of_next hnext
    have hends : lexeme.token.EndsBefore l₁.rest more := by
      obtain ⟨token, position⟩ := lexeme
      cases token with
      | text s =>
        by_cases hnil : lexemes = []
        · subst hnil
          cases hrest
          exact hlast s position rfl
        · exact rest_ne_nil_of_yields hrest hnil
      | startTag escaped =>
        refine rest_ne_nil_of_yields hrest ?_
        rintro rfl
        cases hrest
        rw [hmode] at hmode₁
        cases hmode₁
      | endTag escaped => exact .inr hmore
      | word | literal | comment | partialRef =>
        obtain ⟨opened, hopened⟩ := exists_mode_of_next hnext trivial
        exact mem_rest_of_yields hrest (hmode₁.trans hopened) hmode
    refine .cons (next_extend hnext hends) (ih hmode ?_)
    intro s position hlexemes
    exact hlast s position (by simp [List.getLast?_cons, hlexemes])

end Lexer

end TextTemplate

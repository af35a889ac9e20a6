import TextTemplate.Proofs.Token.Continued
import TextTemplate.Proofs.Token.Progress

/-!
# Tokens of a source are well bracketed

Tags do not nest, and texts stand between them. The tokens that a lexer gives are the front of a row
of tags with at most one text before each of them and behind the last; a tag holds tokens that stand
in tags, and a comment only as the last one, since it is read up to the marker that closes its tag.

## Main definitions

- `IsUnmarked` — the texts that stand between tags
- `Enclosed` — what can stand in a tag
- `Bracketed` — rows of tags, with the texts between them

## Main statements

- `Lexer.next_of_comment` — a comment is followed by the end of its tag
- `Lexer.Yields.exists_bracketed` — every run from between tags can be completed to such a row
-/

namespace TextTemplate

open Text

/-- A text between tags: it is not empty, and no marker opens a tag in it. -/
structure IsUnmarked (s : String) : Prop where
  ne_empty : s ≠ ""
  marker : ¬ openMarker <:+: s.toList

/-- What can stand in a tag: tokens that stand in tags, of which only the last may be a comment. -/
inductive Enclosed : List Token → Prop
  | nil : Enclosed []
  | comment (s : String) : Enclosed [.comment s]
  | cons {token : Token} {tokens : List Token} :
      token.IsInner → (∀ s, token ≠ .comment s) → Enclosed tokens → Enclosed (token :: tokens)

/-- Tags one behind the other, with at most one text before each of them and behind the last. -/
inductive Bracketed : List Token → Prop
  | ending {text? : Option String} :
      (∀ s ∈ text?, IsUnmarked s) → Bracketed (text?.toList.map .text)
  | tag {text? : Option String} {inner tokens : List Token} (escaped closed : Bool) :
      (∀ s ∈ text?, IsUnmarked s) → Enclosed inner → Bracketed tokens →
      Bracketed (text?.toList.map .text ++ .startTag escaped :: (inner ++ .endTag closed :: tokens))

theorem Enclosed.isInner {tokens : List Token} (h : Enclosed tokens) :
    ∀ token ∈ tokens, token.IsInner := by
  induction h with
  | nil => simp
  | comment s => exact List.forall_mem_singleton.2 trivial
  | cons htoken _ _ ih => exact List.forall_mem_cons.2 ⟨htoken, ih⟩

-- ════════════════════════════════════════════════════════════════════════
-- What one call gives
-- ════════════════════════════════════════════════════════════════════════

/-- No marker stands in front of the first one. -/
theorem Text.not_infix_of_cutAt {marker cs before found : List Char} (hne : marker ≠ [])
    (h : cutAt marker cs = some (before, found)) : ¬ marker <:+: before := by
  induction cs generalizing before with
  | nil => simp [cutAt, hne] at h
  | cons c cs ih =>
    simp only [cutAt] at h
    split at h
    · cases h
      rwa [List.infix_nil]
    · next hprefix =>
      obtain ⟨⟨b, f⟩, hcut, heq⟩ := Option.map_eq_some_iff.1 h
      cases heq
      rw [List.infix_cons_iff, not_or]
      refine ⟨fun hhere => hprefix ?_, ih hcut⟩
      rw [List.isPrefixOf_iff_prefix, ← append_of_cutAt hcut]
      exact hhere.trans (List.prefix_append (c :: b) f)

/-- A text that is scanned ends in front of the first marker. -/
theorem isUnmarked_of_scanText? {cs : List Char} {scan : Scan} {s : String}
    (h : scanText? cs = some scan) (htoken : scan.token = .text s) : IsUnmarked s := by
  have hne : cs ≠ [] := by
    rintro rfl
    cases h
  have hmarker : ¬ openMarker <+: cs := by
    intro hprefix
    obtain ⟨escaped, slice, rest, hstart⟩ := scanText?_of_marked hprefix
    rw [hstart] at h
    cases h
    cases htoken
  rw [scanText?_of_unmarked hne hmarker] at h
  cases hcut : cutAt openMarker cs with
  | none =>
    rw [hcut] at h
    cases h
    cases htoken
    have hfree := (cutAt_eq_none_iff (by simp [openMarker])).1 hcut
    exact ⟨by simpa using hne, by simpa using hfree⟩
  | some parts =>
    obtain ⟨before, found⟩ := parts
    rw [hcut] at h
    cases h
    cases htoken
    have hfound := List.isPrefixOf_iff_prefix.1 (isPrefixOf_of_cutAt hcut)
    have hfree := not_infix_of_cutAt (by simp [openMarker]) hcut
    refine ⟨?_, by simpa using hfree⟩
    -- An empty text would have the marker at its start.
    intro hempty
    obtain rfl : before = [] := by simpa using hempty
    exact hmarker (append_of_cutAt hcut ▸ hfound)

namespace Lexer

variable {l l' : Lexer}

/-- Where a closing marker lies ahead, it is read. -/
theorem next_of_marked {opened : Position} (hmode : l.mode = .tag opened)
    (h : closeMarker <+: l.rest) :
    ∃ closed l', l.next = (.ok (some ⟨.endTag closed, l.position⟩), l') := by
  obtain ⟨rest, hrest⟩ := h
  have hskip : l.skipBlanks = l := skipBlanks_of_head hrest.symm (by decide)
  obtain ⟨closed, slice, behind, hscan⟩ : ∃ closed slice behind,
      scanTag opened l.skipBlanks.position l.skipBlanks.rest =
        .ok ⟨.endTag closed, slice, behind⟩ := by
    rw [hskip, ← hrest]
    by_cases hthird : rest.head? = some '\x7d'
    · obtain ⟨rest', rfl⟩ := List.head?_eq_some_iff.1 hthird
      exact ⟨_, _, _, rfl⟩
    · exact ⟨_, _, _, scanTag_of_scansTag (.endDouble hthird) opened _⟩
  have hnext := next_of_scanTag hmode hscan
  rw [hskip] at hnext
  exact ⟨closed, _, hnext⟩

/-- A comment is followed by the end of its tag. -/
theorem next_of_comment {s : String} {p : Position}
    (h : l.next = (.ok (some ⟨.comment s, p⟩), l')) :
    ∃ closed l'', l'.next = (.ok (some ⟨.endTag closed, l'.position⟩), l'') := by
  obtain ⟨opened, hmode⟩ := exists_mode_of_next h trivial
  exact next_of_marked ((mode_of_next h).trans hmode) (endsAtMarker_of_next h)

/-- A text is followed by a tag or by the end of the source. -/
theorem next_of_text {s : String} {p : Position} (h : l.next = (.ok (some ⟨.text s, p⟩), l')) :
    IsUnmarked s ∧ (l'.next = (.ok none, l') ∨
      ∃ escaped q l'', l'.next = (.ok (some ⟨.startTag escaped, q⟩), l'')) := by
  have hmode := mode_of_text h
  have hmode' : l'.mode = .text := (mode_of_next h).trans hmode
  constructor
  · obtain ⟨-, scan, hscan, htake⟩ | ⟨opened, -, htag, -⟩ := next_eq_some h
    · have htoken : scan.token = .text s := congrArg (fun taken => taken.1.token) htake.symm
      exact isUnmarked_of_scanText? hscan htoken
    · rw [hmode] at htag
      cases htag
  · obtain hrest | hrest := endsAtMarker_of_next h
    · exact .inl (next_of_end hmode' (by rw [hrest]; rfl))
    · obtain ⟨escaped, slice, rest, hstart⟩ := scanText?_of_marked hrest
      exact .inr ⟨escaped, _, _, next_of_scanText? hmode' hstart⟩

-- ════════════════════════════════════════════════════════════════════════
-- What calls in a row give
-- ════════════════════════════════════════════════════════════════════════

/-- A run from inside a tag stays in it, with tokens that can stand there, or goes on behind its end
marker. -/
theorem Yields.enclosed_or_exists {lexemes : List Lexeme} (h : l.Yields lexemes l')
    {opened : Position} (hmode : l.mode = .tag opened) :
    (Enclosed (lexemes.map Lexeme.token) ∧ l'.mode = .tag opened) ∨
      ∃ (inner : List Lexeme) (closed : Bool) (closing : Position) (behind : List Lexeme)
        (l₁ : Lexer),
        lexemes = inner ++ ⟨.endTag closed, closing⟩ :: behind ∧
        Enclosed (inner.map Lexeme.token) ∧ l₁.mode = .text ∧ l₁.Yields behind l' := by
  induction h with
  | nil => exact .inl ⟨.nil, hmode⟩
  | @cons l l₁ l₂ lexeme lexemes hnext hrest ih =>
    obtain ⟨e, herror⟩ | ⟨lexeme', l₁', hnext', hcases⟩ := next_of_mode_tag hmode
    · rw [herror] at hnext
      cases hnext
    rw [hnext'] at hnext
    cases hnext
    obtain ⟨token, p⟩ := lexeme
    obtain ⟨closed, rfl, hmode₁⟩ | ⟨hinner, hmode₁⟩ := hcases
    · exact .inr ⟨[], closed, p, lexemes, l₁, rfl, .nil, hmode₁, hrest⟩
    by_cases hcomment : ∃ s, token = .comment s
    · -- Behind a comment the run stops or closes the tag.
      obtain ⟨s, rfl⟩ := hcomment
      obtain ⟨closed, l₃, hend⟩ := next_of_comment hnext'
      cases hrest with
      | nil => exact .inl ⟨.comment s, hmode₁⟩
      | cons hnext₁ hmore =>
        rw [hend] at hnext₁
        cases hnext₁
        exact .inr ⟨[_], closed, _, _, l₃, rfl, .comment s, mode_of_next hend, hmore⟩
    · have hother : ∀ s, token ≠ .comment s := fun s hs => hcomment ⟨s, hs⟩
      obtain ⟨henclosed, hmode₂⟩ | ⟨inner, closed, closing, behind, l₃, rfl, henclosed, hmode₃,
        hbehind⟩ := ih hmode₁
      · exact .inl ⟨.cons hinner hother henclosed, hmode₂⟩
      · exact .inr ⟨_ :: inner, closed, closing, behind, l₃, rfl,
          .cons hinner hother henclosed, hmode₃, hbehind⟩

/-- Every run from between tags can be completed to a row of tags, and is one where it ends between
tags. -/
theorem Yields.exists_bracketed {lexemes : List Lexeme} (h : l.Yields lexemes l')
    (hmode : l.mode = .text) :
    ∃ more, Bracketed (lexemes.map Lexeme.token ++ more) ∧ (l'.mode = .text → more = []) := by
  induction hn : lexemes.length using Nat.strongRecOn generalizing lexemes l with
  | ind n ih =>
    -- Behind a start marker the tag goes on, or has an end with a shorter run behind it.
    have htag : ∀ (text? : Option String) {escaped : Bool} {p : Position} {l₁ l₂ : Lexer}
        {behind : List Lexeme}, (∀ s ∈ text?, IsUnmarked s) →
        l₁.next = (.ok (some ⟨.startTag escaped, p⟩), l₂) → l₂.Yields behind l' →
        behind.length < n →
        ∃ more, Bracketed (text?.toList.map .text ++
            .startTag escaped :: (behind.map Lexeme.token ++ more)) ∧
          (l'.mode = .text → more = []) := by
      intro text? escaped p l₁ l₂ behind htext hnext hrun hlt
      have hmode₂ : l₂.mode = .tag p := mode_of_next hnext
      obtain ⟨henclosed, hmode'⟩ | ⟨inner, closed, closing, behind, l₃, rfl, henclosed, hmode₃,
        hbehind⟩ := hrun.enclosed_or_exists hmode₂
      · refine ⟨[.endTag true], .tag escaped true htext henclosed (@Bracketed.ending none ?_), ?_⟩
        · simp
        · intro htext'
          rw [hmode'] at htext'
          cases htext'
      · simp only [List.length_append, List.length_cons] at hlt
        obtain ⟨more, hmore, hnil⟩ := ih behind.length (by omega) hbehind hmode₃ rfl
        refine ⟨more, ?_, hnil⟩
        simpa using Bracketed.tag escaped closed htext henclosed hmore
    cases h with
    | nil => exact ⟨[], @Bracketed.ending none (by simp), fun _ => rfl⟩
    | @cons _ l₁ _ lexeme lexemes hnext hrest =>
      obtain hend | ⟨⟨token, p⟩, l₁', hnext', hcases⟩ := next_of_mode_text hmode
      · rw [hend] at hnext
        cases hnext
      rw [hnext'] at hnext
      cases hnext
      simp only [List.length_cons] at hn
      obtain ⟨s, rfl, -⟩ | ⟨escaped, rfl, -⟩ := hcases
      · obtain ⟨hunmarked, hbehind⟩ := next_of_text hnext'
        have htext : ∀ t ∈ some s, IsUnmarked t := by
          rintro t ⟨⟩
          exact hunmarked
        cases hrest with
        | nil => exact ⟨[], .ending htext, fun _ => rfl⟩
        | cons hnext₁ hmore =>
          obtain hend | ⟨escaped, q, l₂, hstart⟩ := hbehind
          · rw [hend] at hnext₁
            cases hnext₁
          · rw [hstart] at hnext₁
            cases hnext₁
            exact htag (some s) htext hstart hmore (by simp only [List.length_cons] at hn; omega)
      · exact htag none (by simp) hnext' hrest (by omega)

end Lexer

end TextTemplate

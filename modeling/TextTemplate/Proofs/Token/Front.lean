import TextTemplate.Proofs.Token.Continued

/-!
# The text at the end of a source

A source that has tokens ends with a tag, or with a text behind the last one. All tokens before that
text are read alike whatever is put behind the source, unless it begins with a closing brace. The
text itself is read alone or goes on with a text that is put there, if it does not end with half of
a marker.

## Main definitions

- `IsFree` — a text without markers that does not end with half of one
- `Lexer.Front` — the tokens of a source before the text at its end
-/

namespace TextTemplate

open Text

/-- A text without markers that does not end with half of one. -/
structure IsFree (cs : List Char) : Prop where
  marker : ¬ openMarker <:+: cs
  last : cs.getLast? ≠ some '\x7b'

theorem IsFree.unmarked {cs : List Char} (h : IsFree cs) (hne : cs ≠ []) (more : List Char) :
    ¬ openMarker <+: cs ++ more :=
  not_pair_prefix_append hne h.marker h.last more

theorem IsFree.cutAt_append {cs : List Char} (h : IsFree cs) (more : List Char) :
    cutAt openMarker (cs ++ more) =
      (cutAt openMarker more).map fun (before, found) => (cs ++ before, found) :=
  cutAt_pair_append h.marker h.last more

/-- A text ends where a tag or the end of the source follows. -/
theorem scanText?_free {cs more : List Char} (h : IsFree cs) (hne : cs ≠ [])
    (hmore : more = [] ∨ openMarker <+: more) :
    scanText? (cs ++ more) = some ⟨.text (String.ofList cs), cs, more⟩ := by
  have hcut : (cutAt openMarker (cs ++ more)).getD (cs ++ more, []) = (cs, more) := by
    rw [h.cutAt_append]
    obtain rfl | ⟨ds, rfl⟩ := hmore
    · simp [cutAt, openMarker]
    · simp [cutAt, openMarker]
  rw [scanText?_of_unmarked (by simp [hne]) (h.unmarked hne more), hcut]

/-- A text goes on with a text that follows. -/
theorem scanText?_free_append {cs more slice rest : List Char} {s : String} (h : IsFree cs)
    (hne : cs ≠ []) (hmore : scanText? more = some ⟨.text s, slice, rest⟩) :
    scanText? (cs ++ more) = some ⟨.text (String.ofList cs ++ s), cs ++ slice, rest⟩ := by
  have hmarker : ¬ openMarker <+: more := by
    intro hprefix
    obtain ⟨escaped, slice', rest', hscan⟩ := scanText?_of_marked hprefix
    rw [hscan] at hmore
    cases hmore
  have hnil : more ≠ [] := by
    rintro rfl
    cases hmore
  rw [scanText?_of_unmarked hnil hmarker] at hmore
  rw [scanText?_of_unmarked (by simp [hne]) (h.unmarked hne more), h.cutAt_append]
  cases hcut : cutAt openMarker more with
  | none =>
    rw [hcut] at hmore
    cases hmore
    simp
  | some parts =>
    rw [hcut] at hmore
    cases hmore
    simp

namespace Lexer

variable {cs : List Char}

/-- A text at the end of a source is read alone or goes on with what is put behind it. -/
theorem next_free_append (h : IsFree cs) (hne : cs ≠ []) (more : List Char) (p : Position) :
    next ⟨cs ++ more, p, .text⟩ =
        (.ok (some ⟨.text (String.ofList cs), p⟩), ⟨more, p.advance cs, .text⟩) ∨
      ∃ s slice rest, scanText? more = some ⟨.text s, slice, rest⟩ ∧
        next ⟨cs ++ more, p, .text⟩ =
          (.ok (some ⟨.text (String.ofList cs ++ s), p⟩),
            ⟨rest, (p.advance cs).advance slice, .text⟩) := by
  by_cases hmore : more = [] ∨ openMarker <+: more
  · exact .inl (next_of_scanText? (l := ⟨cs ++ more, p, .text⟩) rfl (scanText?_free h hne hmore) :)
  · obtain ⟨hnil, hmarker⟩ := not_or.1 hmore
    have hscan := scanText?_of_unmarked hnil hmarker
    refine .inr ⟨_, _, _, hscan, ?_⟩
    simp only [next, scanText?_free_append h hne hscan, take, behind, modeAfter,
      Position.advance_append]

/-- The lexemes of a source before the text at its end, if it ends with one. Behind the source they
are read alike whatever text is put there, unless it begins with a closing brace. -/
structure Front (source : String) (lexemes : List Lexeme) (p : Position) (cs : List Char) :
    Prop where
  free : IsFree cs
  extend : ∀ more : String, more.toList.head? ≠ some '\x7d' →
    (ofSource (source ++ more)).Yields lexemes ⟨cs ++ more.toList, p, .text⟩

theorem ofSource_append (source more : String) :
    ofSource (source ++ more) = (ofSource source).extend more.toList := by
  simp [ofSource, Lexer.extend, Lexer.before]

/-- A run to a place between tags finds the lexemes in front of what is left, if that is a text
without markers and they do not end with a text that reaches the end of the source. -/
theorem front_of_yields {source : String} {lexemes : List Lexeme} {l : Lexer}
    (hrun : (ofSource source).Yields lexemes l) (hmode : l.mode = .text) (hfree : IsFree l.rest)
    (hlast : ∀ s position, lexemes.getLast? = some ⟨.text s, position⟩ → l.rest ≠ []) :
    Front source lexemes l.position l.rest := by
  refine ⟨hfree, ?_⟩
  intro more hmore
  have hextend := hrun.extend hmode hmore hlast
  rw [ofSource_append]
  rwa [show l.extend more.toList = ⟨l.rest ++ more.toList, l.position, .text⟩ by
    rw [← hmode]; rfl] at hextend

/-- A text that is read up to the end of the source has no markers. -/
theorem free_of_next {l l' : Lexer} {s : String} {p : Position}
    (h : l.next = (.ok (some ⟨.text s, p⟩), l')) (hrest : l'.rest = [])
    (hlast : l.rest.getLast? ≠ some '\x7b') :
    l.mode = .text ∧ IsFree l.rest ∧ l.rest ≠ [] := by
  obtain ⟨hmode, scan, hscan, htake⟩ | ⟨opened, scan, -, hscan, htake⟩ := next_eq_some h
  · have htoken : scan.token = .text s := congrArg (fun taken => taken.1.token) htake.symm
    have hbehind : scan.rest = [] :=
      (congrArg (fun taken => taken.2.rest) htake.symm).trans hrest
    have hmarker : ¬ openMarker <+: l.rest := by
      intro hprefix
      obtain ⟨escaped, slice, rest, hstart⟩ := scanText?_of_marked hprefix
      rw [hstart] at hscan
      cases hscan
      cases htoken
    have hne : l.rest ≠ [] := by
      intro hnil
      rw [hnil] at hscan
      cases hscan
    rw [scanText?_of_unmarked hne hmarker] at hscan
    cases hcut : cutAt openMarker l.rest with
    | none =>
      rw [hcut] at hscan
      exact ⟨hmode, ⟨(cutAt_eq_none_iff (by simp [openMarker])).1 hcut, hlast⟩, hne⟩
    | some parts =>
      rw [hcut] at hscan
      cases hscan
      obtain ⟨rest, hfound⟩ := List.isPrefixOf_iff_prefix.1 (isPrefixOf_of_cutAt hcut)
      rw [show parts.2 = [] from hbehind] at hfound
      cases hfound
  · have htoken : scan.token = .text s := congrArg (fun taken => taken.1.token) htake.symm
    obtain ⟨⟨escaped, hend⟩ | hinner, -⟩ := token_of_scanTag hscan
    · rw [htoken] at hend
      cases hend
    · rw [htoken] at hinner
      exact hinner.elim

theorem rest_suffix_of_yields {l l' : Lexer} {lexemes : List Lexeme} (h : l.Yields lexemes l') :
    l'.rest <:+ l.rest := by
  induction h with
  | nil => exact List.suffix_rfl
  | cons hnext _ ih => exact ih.trans (rest_suffix_of_next hnext)

/-- A source that has tokens and does not end with half of a marker has a text at its end, which may
be empty, and lexemes before it. -/
theorem exists_front {source : String} {lexemes : List Lexeme}
    (h : tokenize source = .ok lexemes) (hlast : source.toList.getLast? ≠ some '\x7b') :
    ∃ front p cs, Front source front p cs := by
  obtain ⟨l', hrun, hend⟩ := tokens_eq_ok_iff.1 h
  obtain ⟨hmode, hrest, -⟩ := next_eq_none hend
  by_cases htext : ∃ front s p, lexemes = front ++ [⟨.text s, p⟩]
  · obtain ⟨front, s, p, rfl⟩ := htext
    obtain ⟨l, hfront, htext⟩ := hrun.split
    cases htext with
    | cons hnext hnil =>
      cases hnil
      have hsuffix : l.rest <:+ source.toList := rest_suffix_of_yields hfront
      obtain ⟨hmode, hfree, hne⟩ := free_of_next hnext hrest (getLast?_ne_of_suffix hsuffix hlast)
      exact ⟨_, _, _, front_of_yields hfront hmode hfree fun _ _ _ => hne⟩
  · have hfree : IsFree l'.rest := hrest ▸ ⟨by simp [openMarker], by simp⟩
    refine ⟨_, _, _, front_of_yields hrun hmode hfree fun s p hgetLast => ?_⟩
    obtain ⟨front, rfl⟩ := List.getLast?_eq_some_iff.1 hgetLast
    exact absurd ⟨front, s, p, rfl⟩ htext

end Lexer

end TextTemplate

import TextTemplate.Engine
import TextTemplate.Proofs.Seam
import TextTemplate.Proofs.Token.Brackets

/-!
# Blanks in tags

The tokens of a tag need no blanks between them, and may have any. Each ends where it does whatever
comes behind it, if only this begins with a blank, so blanks can be put between any two tokens of a
tag. Only behind a comment they would become part of it.

## Main definitions

- `IsTagBoundary` — the places between the tokens of a tag
- `Lexer.Apart` — lexers in front of two texts, of which one has more blanks at one such place

## Main statements

- `Engine.blanks_in_tags_are_ignored` — blanks at such a place change no token and no result
-/

namespace TextTemplate

open Text

-- ════════════════════════════════════════════════════════════════════════
-- Tokens in front of a blank
-- ════════════════════════════════════════════════════════════════════════

/-- A marker has at least two braces. -/
theorem Token.SpelledAs.two_le {token : Token} {slice : List Char} (h : token.SpelledAs slice)
    (hmarker : (∃ escaped, token = .startTag escaped) ∨ ∃ closed, token = .endTag closed) :
    2 ≤ slice.length := by
  obtain ⟨escaped, rfl⟩ | ⟨closed, rfl⟩ := hmarker
  · cases escaped <;> simp [show slice = _ from h]
  · cases closed <;> simp [show slice = _ from h]

/-- What begins a text and is no blank also begins the text that goes on otherwise where the first
one goes on with a blank. -/
theorem head?_of_blank {c blank : Char} (hc : isBlank c = false) (hblank : isBlank blank = true)
    {passed behind more : List Char} (h : (passed ++ blank :: more).head? = some c) :
    (passed ++ behind).head? = some c := by
  cases passed with
  | nil =>
    obtain rfl : blank = c := by simpa using h
    rw [hblank] at hc
    cases hc
  | cons d ds => exact h

theorem partsOutsideWords_of_blank {blank : Char} (hblank : isBlank blank = true)
    (passed behind more : List Char) :
    PartsOutsideWords (passed ++ behind) (passed ++ blank :: more) := by
  refine ⟨passed, behind, blank, more, rfl, rfl, ?_⟩
  rw [← Bool.not_eq_true]
  intro hword
  rw [isBlank_of_isWordChar hword] at hblank
  cases hblank

namespace Lexer

variable {l l' l₁ m₁ : Lexer} {lexeme : Lexeme} {lexemes : List Lexeme}

theorem length_rest_of_marker (h : l.next = (.ok (some lexeme), l'))
    (hmarker : (∃ escaped, lexeme.token = .startTag escaped) ∨
      ∃ closed, lexeme.token = .endTag closed) : l'.rest.length + 2 ≤ l.rest.length := by
  obtain ⟨-, scan, hscan, htake⟩ | ⟨opened, scan, -, hscan, htake⟩ := next_eq_some h
  · cases htake
    have hlength := (token_of_scanText? hscan).2.two_le hmarker
    rw [← (covers_of_scanText? hscan).1, List.length_append]
    simp only [behind]
    omega
  · cases htake
    have hlength := (token_of_scanTag hscan).2.two_le hmarker
    have hskip := (List.dropWhile_sublist (l := l.rest) isBlank).length_le
    rw [show l.rest.dropWhile isBlank = scan.slice ++ scan.rest from
      (covers_of_scanTag hscan).1.symm, List.length_append] at hskip
    simp only [behind]
    omega

/-- Where a marker is read, all of it is passed over. -/
theorem Yields.prefix_passed (h : l.Yields (lexeme :: lexemes) l')
    (hmarker : (∃ escaped, lexeme.token = .startTag escaped) ∨
      ∃ closed, lexeme.token = .endTag closed)
    {marker passed : List Char} (hlength : marker.length = 2) (hmarked : marker <+: l.rest)
    (hpassed : l.rest = passed ++ l'.rest) : marker <+: passed := by
  cases h with
  | cons hnext hrun =>
    have htwo := length_rest_of_marker hnext hmarker
    have hbehind := hrun.length_le
    rw [hpassed, List.length_append] at htwo
    rw [hpassed] at hmarked
    exact List.prefix_of_prefix_length_le hmarked (List.prefix_append passed l'.rest) (by omega)

/-- A run that comes to a place in a tag comes to the same place where the text from there on is
another one, if this begins with a blank and the place is not directly behind a comment. -/
theorem Yields.before_blank (h : l.Yields lexemes l') {opened : Position}
    (hmode : l'.mode = .tag opened)
    (hcomment : ∀ s p, lexemes.getLast? ≠ some ⟨.comment s, p⟩) :
    ∃ passed, l.rest = passed ++ l'.rest ∧ ∀ {blank : Char}, isBlank blank = true → ∀ more,
      (l.before (passed ++ blank :: more)).Yields lexemes (l'.before (blank :: more)) := by
  induction h with
  | nil l => exact ⟨[], rfl, fun _ _ => .nil _⟩
  | @cons l l₁ l₂ lexeme lexemes hnext hrest ih =>
    obtain ⟨passed, hpassed, hrun⟩ := ih hmode fun s p hlast =>
      hcomment s p (by simp [List.getLast?_cons, hlast])
    obtain ⟨passed₀, hpassed₀, hread⟩ := next_before hnext
    refine ⟨passed₀ ++ passed, by rw [hpassed₀, hpassed, List.append_assoc], ?_⟩
    intro blank hblank more
    have halike : lexeme.token.ReadAlike l₁.rest (passed ++ blank :: more) := by
      obtain ⟨token, p⟩ := lexeme
      cases token with
      | text s =>
        -- The run ends inside a tag, so this is not its last token, and a tag follows.
        have hmarked := endsAtMarker_of_next hnext
        have hmode₁ : l₁.mode = .text := (mode_of_next hnext).trans (mode_of_text hnext)
        cases hrest with
        | nil =>
          rw [hmode₁] at hmode
          cases hmode
        | cons hnext₁ hmore =>
          have hne : l₁.rest ≠ [] := rest_ne_nil_of_yields (.single hnext₁) (List.cons_ne_nil _ _)
          obtain ⟨-, hend | ⟨escaped, q, l₃, hstart⟩⟩ := next_of_text hnext
          · rw [hend] at hnext₁
            cases hnext₁
          · rw [hstart] at hnext₁
            cases hnext₁
            have hprefix := (Yields.cons hstart hmore).prefix_passed (.inl ⟨escaped, rfl⟩) rfl
              (hmarked.resolve_left hne) hpassed
            exact ⟨hne, hprefix.trans (List.prefix_append passed _)⟩
      | startTag escaped =>
        intro hhead
        rw [hpassed]
        exact head?_of_blank (by decide) hblank hhead
      | endTag closed =>
        intro hhead
        rw [hpassed]
        exact head?_of_blank (by decide) hblank hhead
      | comment s =>
        have hmarked := endsAtMarker_of_next hnext
        cases hrest with
        | nil => exact absurd rfl (hcomment s p)
        | cons hnext₁ hmore =>
          obtain ⟨closed, l₃, hclose⟩ := next_of_comment hnext
          rw [hclose] at hnext₁
          cases hnext₁
          have hprefix := (Yields.cons hclose hmore).prefix_passed (.inr ⟨closed, rfl⟩) rfl
            hmarked hpassed
          exact hprefix.trans (List.prefix_append passed _)
      | word | literal | partialRef =>
        show PartsOutsideWords _ _
        rw [hpassed]
        exact partsOutsideWords_of_blank hblank passed l₂.rest more
    rw [List.append_assoc]
    exact .cons (hread _ halike) (hrun hblank more)

theorem next_skipBlanks {opened : Position} (hmode : l.mode = .tag opened) :
    l.skipBlanks.next = l.next := by
  have hmode' : l.skipBlanks.mode = .tag opened := hmode
  simp only [next, hmode, hmode', skipBlanks_skipBlanks]

/-- Lexers that read the same lexemes up to a place in a tag where they stand in front of the same
text but for blanks, or that have come past it. -/
def Apart (l₁ m₁ l m : Lexer) : Prop :=
  (∃ lexemes, l.Yields lexemes l₁ ∧ m.Yields lexemes m₁) ∨ l.Alike Position.Any m

/-- Lexers in front of the same text but for blanks are read alike from before this place on. -/
theorem simulation_apart {opened : Position} (hl : l₁.mode = .tag opened)
    (hm : m₁.mode = .tag opened) (h : l₁.skipBlanks.Alike Position.Any m₁.skipBlanks) :
    Simulation Position.Any (Apart l₁ m₁) BothEnd := by
  have halike := simulation_alike Position.any_after
  refine ⟨?_, halike.exit⟩
  rintro l m (⟨lexemes, hrun, hrun'⟩ | hpast)
  · cases hrun with
    | nil =>
      cases hrun'
      obtain hend | hstep := halike.step h
      · have hmode := (next_eq_none hend.1).1
        rw [show l₁.skipBlanks.mode = .tag opened from hl] at hmode
        cases hmode
      · exact .inr ((hstep.imp .inr).congr (next_skipBlanks hl) (next_skipBlanks hm))
    | @cons _ _ _ x lexemes hnext hrun =>
      cases hrun' with
      | cons hnext' hrun' =>
        exact .inr (.lexeme hnext hnext' (.mk trivial x.token) (.inl ⟨lexemes, hrun, hrun'⟩))
  · exact (halike.step hpast).imp_right fun hstep => hstep.imp .inr

end Lexer

-- ════════════════════════════════════════════════════════════════════════
-- Sources with more blanks
-- ════════════════════════════════════════════════════════════════════════

/-- A place inside a tag of a source, by the texts on its two sides: some first tokens of the source
lie in front of it, the last of them no comment, and only blanks between them and the place. -/
def IsTagBoundary (before after : String) : Prop :=
  ∃ (front : List Lexeme) (l : Lexer) (opened : Position) (gap : List Char),
    (Lexer.ofSource (before ++ after)).Yields front l ∧ l.mode = .tag opened ∧
    (∀ s p, front.getLast? ≠ some ⟨.comment s, p⟩) ∧
    (∀ c ∈ gap, isBlank c = true) ∧ l.rest = gap ++ after.toList

/-- A source is read alike with more blanks at a place in a tag. -/
theorem IsTagBoundary.exists_simulation {before after blanks : String}
    (h : IsTagBoundary before after) (hblanks : ∀ c ∈ blanks.toList, isBlank c = true) :
    ∃ S, Lexer.Simulation Position.Any S Lexer.BothEnd ∧
      S (Lexer.ofSource (before ++ after)) (Lexer.ofSource (before ++ blanks ++ after)) := by
  obtain ⟨front, l, opened, gap, hrun, hmode, hcomment, hgap, hrest⟩ := h
  obtain ⟨passed, hpassed, hspaced⟩ := hrun.before_blank hmode hcomment
  have hbefore : before.toList = passed ++ gap := by
    rw [hrest, Lexer.ofSource, String.toList_append, ← List.append_assoc] at hpassed
    exact List.append_cancel_right hpassed
  have hsource : (before ++ blanks ++ after).toList =
      passed ++ (gap ++ blanks.toList ++ after.toList) := by
    simp [hbefore]
  have hall : ∀ c ∈ gap ++ blanks.toList, isBlank c = true := by
    simpa [or_imp, forall_and] using ⟨hgap, hblanks⟩
  cases hblank : gap ++ blanks.toList with
  | nil =>
    -- There are no blanks, so the sources are the same.
    have hempty : blanks = "" := by simpa using (List.append_eq_nil_iff.1 hblank).2
    rw [hempty, String.append_empty]
    exact ⟨_, Lexer.simulation_alike Position.any_after, Lexer.alike_text _ _ _⟩
  | cons blank more =>
    rw [hblank] at hsource hall
    obtain ⟨hfirst, hmore⟩ := List.forall_mem_cons.1 hall
    have hmode' : (l.before (blank :: (more ++ after.toList))).mode = .tag opened := hmode
    have hskip : l.skipBlanks.Alike Position.Any
        (l.before (blank :: (more ++ after.toList))).skipBlanks := by
      refine ⟨?_, trivial, ?_⟩
      · simp only [Lexer.skipBlanks, Lexer.before, hrest, List.dropWhile_append_of_pos hgap,
          List.dropWhile_cons_of_pos hfirst, List.dropWhile_append_of_pos hmore]
      · simp only [Lexer.skipBlanks, Lexer.before, hmode]
        exact .tag trivial
    have hrun' := hspaced hfirst (more ++ after.toList)
    rw [← List.cons_append, ← hsource] at hrun'
    exact ⟨_, Lexer.simulation_apart hmode hmode' hskip, .inl ⟨front, hrun, hrun'⟩⟩

/-- Blanks between the tokens of a tag are ignored: with any more of them at such a place, but not
directly behind a comment, a source that has tokens has the same ones apart from positions. So it is
parsed to the same nodes or fails with the same error apart from positions, and is rendered the
same, whatever is registered and whatever the data and the sink are. -/
theorem Engine.blanks_in_tags_are_ignored (e : Engine) {before after blanks : String}
    {lexemes : List Lexeme} (htokens : tokenize (before ++ after) = .ok lexemes)
    (hplace : IsTagBoundary before after) (hblanks : ∀ c ∈ blanks.toList, isBlank c = true) :
    (∃ lexemes', tokenize (before ++ blanks ++ after) = .ok lexemes' ∧
      lexemes'.map Lexeme.token = lexemes.map Lexeme.token) ∧
    Agree (ParseError.Matches Position.Any)
      (fun nodes nodes' => nodes' = nodes ∧
        ∀ (registry : Registry) (data : Except String Value) (sink : Sink),
          { e with registry }.render nodes' data sink = { e with registry }.render nodes data sink)
      (e.compile (before ++ after)) (e.compile (before ++ blanks ++ after)) := by
  obtain ⟨S, hsim, hS⟩ := hplace.exists_simulation hblanks
  constructor
  · exact hsim.exists_tokens hS htokens
  · have hagree := hsim.agree_assemble grows_eq (Outline.matches_empty grows_eq) hS
      e.config.maxBlockDepth
    unfold compile parseTemplate Parser.parse Parser.ofSource
    simp only
    generalize (Parser.assemble _ _ (Lexer.ofSource (before ++ after))).1 = plain at hagree ⊢
    generalize (Parser.assemble _ _ (Lexer.ofSource (before ++ blanks ++ after))).1 = spaced
      at hagree ⊢
    cases hagree with
    | error he => exact .error he
    | ok heq =>
      subst heq
      exact .ok ⟨rfl, fun _ _ _ => rfl⟩

/-- A tag in which a word stands close behind a number, cut between the two. -/
def crampedHead : String := "\x7b\x7brow 12"

@[inherit_doc crampedHead]
def crampedTail : String := "abc\x7d\x7d"

theorem Engine.blanks_in_tags_are_ignored_cramped :
    IsTagBoundary crampedHead crampedTail ∧ (∀ c ∈ "\t ".toList, isBlank c = true) ∧
      (∃ lexemes, tokenize (crampedHead ++ "\t " ++ crampedTail) = .ok lexemes ∧
        lexemes.map Lexeme.token = [.startTag true, .word "row", .literal (.number (.integer 12)),
          .word "abc", .endTag true]) ∧
      ({} : Engine).compile (crampedHead ++ "\t " ++ crampedTail) =
        .ok [.call "row" [.literal (.number (.integer 12)), .path ⟨[.name "abc"]⟩] true] := by
  have htokens : tokenize (crampedHead ++ crampedTail) =
      .ok [⟨.startTag true, ⟨0, 1, 1⟩⟩, ⟨.word "row", ⟨2, 1, 3⟩⟩,
        ⟨.literal (.number (.integer 12)), ⟨6, 1, 7⟩⟩, ⟨.word "abc", ⟨8, 1, 9⟩⟩,
        ⟨.endTag true, ⟨11, 1, 12⟩⟩] := by
    with_unfolding_all rfl
  have hplain : ({} : Engine).compile (crampedHead ++ crampedTail) =
      .ok [.call "row" [.literal (.number (.integer 12)), .path ⟨[.name "abc"]⟩] true] := by
    with_unfolding_all rfl
  have hrun : (Lexer.ofSource (crampedHead ++ crampedTail)).Yields
      [⟨.startTag true, ⟨0, 1, 1⟩⟩, ⟨.word "row", ⟨2, 1, 3⟩⟩,
        ⟨.literal (.number (.integer 12)), ⟨6, 1, 7⟩⟩]
      ⟨crampedTail.toList, ⟨8, 1, 9⟩, .tag ⟨0, 1, 1⟩⟩ := by
    have hopen : (Lexer.ofSource (crampedHead ++ crampedTail)).next =
        (.ok (some ⟨.startTag true, ⟨0, 1, 1⟩⟩),
          ⟨"row 12abc\x7d\x7d".toList, ⟨2, 1, 3⟩, .tag ⟨0, 1, 1⟩⟩) := by
      with_unfolding_all rfl
    have hword : (⟨"row 12abc\x7d\x7d".toList, ⟨2, 1, 3⟩, .tag ⟨0, 1, 1⟩⟩ : Lexer).next =
        (.ok (some ⟨.word "row", ⟨2, 1, 3⟩⟩),
          ⟨" 12abc\x7d\x7d".toList, ⟨5, 1, 6⟩, .tag ⟨0, 1, 1⟩⟩) := by
      with_unfolding_all rfl
    have hnumber : (⟨" 12abc\x7d\x7d".toList, ⟨5, 1, 6⟩, .tag ⟨0, 1, 1⟩⟩ : Lexer).next =
        (.ok (some ⟨.literal (.number (.integer 12)), ⟨6, 1, 7⟩⟩),
          ⟨"abc\x7d\x7d".toList, ⟨8, 1, 9⟩, .tag ⟨0, 1, 1⟩⟩) := by
      with_unfolding_all rfl
    exact .cons hopen (.cons hword (.single hnumber))
  have hplace : IsTagBoundary crampedHead crampedTail :=
    ⟨_, _, _, [], hrun, rfl, by simp, by simp, rfl⟩
  have hblanks : ∀ c ∈ "\t ".toList, isBlank c = true := List.all_eq_true.1 rfl
  obtain ⟨⟨lexemes, hspaced, hmap⟩, hagree⟩ := blanks_in_tags_are_ignored {} htokens hplace hblanks
  refine ⟨hplace, hblanks, ⟨lexemes, hspaced, hmap⟩, ?_⟩
  rw [hplain] at hagree
  generalize ({} : Engine).compile (crampedHead ++ "\t " ++ crampedTail) = spaced at hagree ⊢
  cases hagree with
  | ok hnodes => rw [hnodes.1]

end TextTemplate

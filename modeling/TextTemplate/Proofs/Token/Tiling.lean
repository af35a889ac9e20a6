import TextTemplate.Proofs.Token.Run

/-!
# Tokens tile the source

The lexemes that a lexer gives lie one behind the other in the source, with nothing but blanks
between them and only inside tags, and each says where it starts. The place of a lexeme or of an
error is determined by the text before it: its UTF-8 length, its newlines, and the characters behind
the last of these.

## Main definitions

- `Position.behind` — the place behind a text, told from the text as a whole
- `Tiled` — lexemes that fill a text, with the gaps that are allowed
- `LexError.PointsAt` — the place that an error reports
-/

namespace TextTemplate

open Text

/-- The place behind a text that starts a source. -/
def Position.behind (cs : List Char) : Position where
  offset := (String.ofList cs).utf8ByteSize
  line := 1 + cs.count '\n'
  column := 1 + (cs.reverse.takeWhile (· != '\n')).length

namespace Position

theorem behind_nil : behind [] = start := rfl

theorem after_behind (cs : List Char) (c : Char) : (behind cs).after c = behind (cs ++ [c]) := by
  have hoffset : (String.ofList (cs ++ [c])).utf8ByteSize =
      (String.ofList cs).utf8ByteSize + c.utf8Size := by
    rw [String.ofList_append, String.utf8ByteSize_append, ← String.singleton_eq_ofList,
      String.utf8ByteSize_singleton]
  by_cases hc : c = '\n'
  · subst hc
    simp only [after, behind, hoffset, if_true, List.count_append, List.reverse_append]
    rfl
  · simp only [after, behind, hoffset, if_neg hc, List.count_append, List.reverse_append]
    simp [hc, Nat.add_assoc]

/-- Passing over text character by character counts what the text as a whole contains. -/
theorem advance_behind (cs ds : List Char) : (behind cs).advance ds = behind (cs ++ ds) := by
  induction ds generalizing cs with
  | nil => simp
  | cons d ds ih => rw [advance_cons, after_behind, ih, List.append_assoc, List.singleton_append]

end Position

/-- Whether the text behind a token lies inside a tag. -/
def insideAfter (inside : Bool) : Token → Bool
  | .startTag _ => true
  | .endTag _ => false
  | _ => inside

/-- Lexemes that fill a text which stands behind another one, inside a tag or outside. Each takes a
slice of its own, of at least one character, that spells its token; it says where the slice starts,
and the gap before it is blank and is empty outside tags. -/
inductive Tiled : List Char → Bool → List Lexeme → List Char → Prop
  | nil (before : List Char) (inside : Bool) : Tiled before inside [] []
  | cons {before gap slice text : List Char} {inside : Bool} {token : Token}
      {lexemes : List Lexeme} :
      (∀ c ∈ gap, isBlank c = true) → (inside = false → gap = []) →
      slice ≠ [] → token.SpelledAs slice →
      Tiled (before ++ gap ++ slice) (insideAfter inside token) lexemes text →
      Tiled before inside (⟨token, .behind (before ++ gap)⟩ :: lexemes) (gap ++ slice ++ text)

/-- Every lexeme of a tiling says how much of the source lies before it. -/
theorem Tiled.position_mem {before text : List Char} {inside : Bool} {lexemes : List Lexeme}
    (h : Tiled before inside lexemes text) {lexeme : Lexeme} (hmem : lexeme ∈ lexemes) :
    ∃ passed, passed <+: before ++ text ∧ lexeme.position = .behind passed := by
  induction h with
  | nil => simp at hmem
  | @cons before gap slice text inside token lexemes _ _ _ _ _ ih =>
    obtain rfl | hmem := List.mem_cons.1 hmem
    · exact ⟨before ++ gap, by simp, rfl⟩
    · obtain ⟨passed, hpassed, hposition⟩ := ih hmem
      exact ⟨passed, by simpa using hpassed, hposition⟩

-- ════════════════════════════════════════════════════════════════════════
-- Runs are tilings
-- ════════════════════════════════════════════════════════════════════════

/-- Whether a lexer stands inside a tag. -/
def Mode.isTag : Mode → Bool
  | .text => false
  | .tag _ => true

theorem Mode.isTag_modeAfter (mode : Mode) (position : Position) (token : Token) :
    (Lexer.modeAfter mode position token).isTag = insideAfter mode.isTag token := by
  cases token <;> rfl

namespace Lexer

/-- A call that gives a lexeme passes over a gap and a slice. -/
theorem tile_of_next {l l' : Lexer} {lexeme : Lexeme} {before : List Char}
    (h : l.next = (.ok (some lexeme), l')) (hposition : l.position = .behind before) :
    ∃ gap slice, l.rest = gap ++ slice ++ l'.rest ∧
      (∀ c ∈ gap, isBlank c = true) ∧ (l.mode.isTag = false → gap = []) ∧
      slice ≠ [] ∧ lexeme.token.SpelledAs slice ∧
      lexeme.position = .behind (before ++ gap) ∧
      l'.position = .behind (before ++ gap ++ slice) := by
  obtain ⟨hmode, scan, hscan, htake⟩ | ⟨opened, scan, hmode, hscan, htake⟩ := next_eq_some h
  · cases htake
    obtain ⟨happend, hne⟩ := covers_of_scanText? hscan
    refine ⟨[], scan.slice, happend.symm, by simp, fun _ => rfl, hne,
      (token_of_scanText? hscan).2, by simpa using hposition, ?_⟩
    simp only [behind, hposition, Position.advance_behind, List.append_nil]
  · cases htake
    obtain ⟨happend, hne⟩ := covers_of_scanTag hscan
    have hrest : l.rest = l.rest.takeWhile isBlank ++ l.skipBlanks.rest :=
      List.takeWhile_append_dropWhile.symm
    have hstart : l.skipBlanks.position = .behind (before ++ l.rest.takeWhile isBlank) := by
      simp only [skipBlanks, hposition, Position.advance_behind]
    refine ⟨l.rest.takeWhile isBlank, scan.slice, ?_, List.all_eq_true.1 List.all_takeWhile,
      by simp [hmode, Mode.isTag], hne, (token_of_scanTag hscan).2, hstart, ?_⟩
    · rw [List.append_assoc, ← happend] at *
      exact hrest
    · simp only [behind, hstart, Position.advance_behind]

/-- The place of the last start marker among lexemes, or else of one that came before them. -/
def lastOpened (opened? : Option Position) : List Lexeme → Option Position
  | [] => opened?
  | ⟨.startTag _, position⟩ :: lexemes => lastOpened (some position) lexemes
  | _ :: lexemes => lastOpened opened? lexemes

theorem exists_of_lastOpened {opened? : Option Position} {lexemes : List Lexeme}
    {place : Position} (h : lastOpened opened? lexemes = some place) :
    opened? = some place ∨ ∃ lexeme ∈ lexemes, lexeme.position = place := by
  fun_induction lastOpened opened? lexemes with
  | case1 => exact .inl h
  | case2 opened? escaped position lexemes ih =>
    obtain hplace | ⟨lexeme, hmem, hplace⟩ := ih h
    · cases hplace
      exact .inr ⟨_, List.mem_cons_self, rfl⟩
    · exact .inr ⟨lexeme, List.mem_cons_of_mem _ hmem, hplace⟩
  | case3 opened? lexeme lexemes _ ih =>
    obtain hplace | ⟨lexeme, hmem, hplace⟩ := ih h
    · exact .inl hplace
    · exact .inr ⟨lexeme, List.mem_cons_of_mem _ hmem, hplace⟩

/-- A lexer inside a tag knows where the tag was opened, if it did so at first. -/
theorem mode_of_yields (opened? : Option Position) {l l' : Lexer} {lexemes : List Lexeme}
    (h : l.Yields lexemes l') (hopened : ∀ opened, l.mode = .tag opened → opened? = some opened)
    {opened : Position} (hmode : l'.mode = .tag opened) :
    lastOpened opened? lexemes = some opened := by
  -- Markers replace what is known, an end marker by nothing that has to be known.
  induction h generalizing opened? with
  | nil => exact hopened opened hmode
  | @cons l l₁ l₂ lexeme lexemes hnext _ ih =>
    have hafter := mode_of_next hnext
    obtain ⟨token, position⟩ := lexeme
    cases token with
    | startTag =>
      refine ih _ ?_ hmode
      intro place hplace
      rw [hafter] at hplace
      cases hplace
      rfl
    | endTag =>
      refine ih _ ?_ hmode
      intro place hplace
      rw [hafter] at hplace
      cases hplace
    | _ =>
      refine ih _ ?_ hmode
      intro place hplace
      rw [hafter] at hplace
      exact hopened place hplace

/-- A run of a lexer fills the text that it passes. -/
theorem tiled_of_yields {l l' : Lexer} {lexemes : List Lexeme} {before : List Char}
    (h : l.Yields lexemes l') (hposition : l.position = .behind before) :
    ∃ text, l.rest = text ++ l'.rest ∧ Tiled before l.mode.isTag lexemes text ∧
      l'.position = .behind (before ++ text) := by
  induction h generalizing before with
  | nil l => exact ⟨[], rfl, .nil before _, by simpa using hposition⟩
  | @cons l l₁ l₂ lexeme lexemes hnext _ ih =>
    obtain ⟨gap, slice, hrest, hblank, hgap, hne, hspelled, hstart, hstop⟩ :=
      tile_of_next hnext hposition
    obtain ⟨text, hrest', htiled, hposition'⟩ := ih hstop
    rw [mode_of_next hnext, Mode.isTag_modeAfter] at htiled
    obtain ⟨token, position⟩ := lexeme
    cases hstart
    refine ⟨gap ++ slice ++ text, ?_, ?_, ?_⟩
    · rw [hrest, hrest', List.append_assoc _ text]
    · exact .cons hblank hgap hne hspelled htiled
    · simpa using hposition'

end Lexer

/-- The place that an error reports: an unterminated tag is reported where it was opened, and any
other fault where it stands. -/
def LexError.PointsAt (opened? : Option Position) (here : Position) : LexError → Prop
  | unterminated place => opened? = some place
  | unparseable place _ | unterminatedString place | unexpectedClose place => place = here

/-- A scan fails at the place where it starts, or reports the tag around it. -/
theorem pointsAt_of_scanTag {opened position : Position} {cs : List Char} {e : LexError}
    (h : scanTag opened position cs = .error e) : e.PointsAt (some opened) position := by
  unfold scanTag at h
  split at h
  · cases h; rfl
  · split at h
    · split at h
      · simp at h
      · simp at h
      · cases h; rfl
    split at h
    · simp at h
    split at h
    · split at h
      · simp at h
      · cases h; rfl
    split at h
    · split at h
      · simp at h
      · cases h; rfl
    split at h
    · simp at h
    · cases h; rfl

/-- The lexemes among the outcomes of any number of calls tile the front of the source, and those of
a source that has tokens tile all of it. An error among the outcomes stands behind them and the
blanks that follow, or is an unterminated tag, reported where the last tag was opened; in any case
it is the place behind some front of the source. -/
theorem calls_tile_source (source : String) (n : Nat) :
    (∃ passed ahead, source.toList = passed ++ ahead ∧
      Tiled [] false (Lexer.found (Lexer.calls n (.ofSource source))) passed ∧
      ∀ e, .error e ∈ Lexer.calls n (.ofSource source) →
        ∃ gap, gap <+: ahead ∧ (∀ c ∈ gap, isBlank c = true) ∧
          e.PointsAt (Lexer.lastOpened none (Lexer.found (Lexer.calls n (.ofSource source))))
            (.behind (passed ++ gap)) ∧
          ∃ front, front <+: source.toList ∧ e.position = .behind front) ∧
    ∀ lexemes, tokenize source = .ok lexemes → Tiled [] false lexemes source.toList := by
  constructor
  · -- Errors come last, so all that was found is one run, and the errors are those of its end.
    obtain ⟨l, hrun, herror⟩ := Lexer.yields_found_calls n (.ofSource source)
    obtain ⟨passed, hrest, htiled, hposition⟩ := Lexer.tiled_of_yields hrun Position.behind_nil.symm
    refine ⟨passed, l.rest, hrest, htiled, ?_⟩
    intro e he
    obtain ⟨opened, hmode, hscan, -⟩ := Lexer.next_eq_error (Prod.ext (herror e he) rfl)
    have hopened := Lexer.mode_of_yields none hrun (by intro _ h; cases h) hmode
    have hplace : l.skipBlanks.position = .behind (passed ++ l.rest.takeWhile isBlank) := by
      simp only [Lexer.skipBlanks, hposition, List.nil_append, Position.advance_behind]
    have hpoints := pointsAt_of_scanTag hscan
    rw [hplace, ← hopened] at hpoints
    have hgap : l.rest.takeWhile isBlank <+: l.rest := List.takeWhile_prefix isBlank
    have hfront : passed ++ l.rest.takeWhile isBlank <+: source.toList := by
      rw [show source.toList = passed ++ l.rest from hrest]
      exact (List.prefix_append_right_inj passed).2 hgap
    refine ⟨_, hgap, List.all_eq_true.1 List.all_takeWhile, hpoints, ?_⟩
    cases e with
    | unterminated place =>
      obtain hplace | ⟨lexeme, hmem, rfl⟩ := Lexer.exists_of_lastOpened hpoints
      · cases hplace
      · obtain ⟨front, hprefix, hlexeme⟩ := htiled.position_mem hmem
        exact ⟨front, hprefix.trans ⟨l.rest, hrest.symm⟩, hlexeme⟩
    | _ => exact ⟨_, hfront, hpoints⟩
  · intro lexemes h
    obtain ⟨l, hrun, hend⟩ := Lexer.tokens_eq_ok_iff.1 h
    obtain ⟨passed, hrest, htiled, -⟩ := Lexer.tiled_of_yields hrun Position.behind_nil.symm
    rw [(Lexer.next_eq_none hend).2.1, List.append_nil] at hrest
    rwa [show source.toList = passed from hrest]

end TextTemplate

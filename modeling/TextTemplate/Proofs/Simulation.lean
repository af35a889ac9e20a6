import TextTemplate.Parser
import TextTemplate.Proofs.Matching
import TextTemplate.Proofs.Item

/-!
# Reading sources side by side

Where calls of two lexers give the same lexemes at related positions, the parser reads the same
items and comes to matching outlines, up to an exit between tags. Two exits are of interest: sources
that begin alike part where they differ, and the same text is read alike wherever it stands, up to
its end.

## Main definitions

- `Lexer.Steps` — calls of two lexers that give the same
- `Lexer.Simulation` — a relation of lexers that calls keep, up to an exit
- `Lexer.Alike` — lexers in front of the same text
- `Lexer.BothEnd` — lexers at the ends of their sources
-/

namespace TextTemplate

namespace Lexer

variable (R : Position → Position → Prop) (S E : Lexer → Lexer → Prop)

/-- Calls of two lexers that give the same error, or the same lexeme with related lexers behind
it. -/
inductive Steps (l m : Lexer) : Prop
  | error {e e' : LexError} {l' m' : Lexer} (hl : l.next = (.error e, l'))
      (hm : m.next = (.error e', m')) (h : e.Matches R e') : Steps l m
  | lexeme {x x' : Lexeme} {l' m' : Lexer} (hl : l.next = (.ok (some x), l'))
      (hm : m.next = (.ok (some x'), m')) (h : x.Matches R x') (hS : S l' m') : Steps l m

/-- A relation of lexers that calls keep while they give the same, up to an exit between tags. -/
structure Simulation : Prop where
  step : ∀ {l m}, S l m → E l m ∨ l.Steps R S m
  exit : ∀ {l m}, E l m → l.mode = .text

end Lexer

section

variable {R : Position → Position → Prop} {S E : Lexer → Lexer → Prop}
  {N : List Node → List Node → Prop}

namespace Lexer

theorem Steps.imp {S' : Lexer → Lexer → Prop} {l m : Lexer} (h : l.Steps R S m)
    (hS : ∀ {l' m'}, S l' m' → S' l' m') : l.Steps R S' m := by
  cases h with
  | error hl hm he => exact .error hl hm he
  | lexeme hl hm hx h => exact .lexeme hl hm hx (hS h)

theorem Steps.congr {l l₀ m m₀ : Lexer} (h : l₀.Steps R S m₀) (hl : l₀.next = l.next)
    (hm : m₀.next = m.next) : l.Steps R S m := by
  cases h with
  | error hnext hnext' he => exact .error (hl ▸ hnext) (hm ▸ hnext') he
  | lexeme hnext hnext' hx h => exact .lexeme (hl ▸ hnext) (hm ▸ hnext') hx h

/-- Inside tags related lexers read the same lexemes up to the end of the tag, or the same error. -/
theorem Simulation.tagLexemes (hsim : Simulation R S E) (escaped : Bool) {p p' : Position}
    (hp : R p p') {l m : Lexer} (h : S l m) {opened : Position} (hmode : l.mode = .tag opened) :
    (∃ e e', (l.tagLexemes escaped p).1 = .error e ∧ (m.tagLexemes escaped p').1 = .error e' ∧
        e.Matches R e') ∨
      ∃ xs xs' l' m', l.tagLexemes escaped p = (.ok xs, l') ∧
        m.tagLexemes escaped p' = (.ok xs', m') ∧ List.Forall₂ (Lexeme.Matches R) xs xs' ∧
        S l' m' := by
  induction hn : l.rest.length using Nat.strongRecOn generalizing l m with
  | ind n ih =>
    have hstep := (hsim.step h).resolve_left fun hexit => by
      rw [hsim.exit hexit] at hmode
      cases hmode
    rw [tagLexemes_eq escaped p l, tagLexemes_eq escaped p' m]
    cases hstep with
    | error hl hm he =>
      rw [hl, hm]
      exact .inl ⟨_, _, rfl, rfl, .lex he⟩
    | @lexeme x x' l' m' hl hm hx hS =>
      rw [hl, hm]
      have hlt : l'.rest.length < n := hn ▸ length_rest_of_next hl
      have hmode' := mode_of_next hl
      have hunexpected := hx.unexpected .tagEnd
      cases hx with
      | mk hposition token =>
        cases token with
        | text | startTag => exact .inl ⟨_, _, rfl, rfl, hunexpected⟩
        | endTag closed =>
          simp only
          split
          · exact .inr ⟨[], [], l', m', rfl, rfl, .nil, hS⟩
          · exact .inl ⟨_, _, rfl, rfl, .mismatchedDelimiters hp⟩
        | word | literal | comment | partialRef =>
          obtain ⟨e, e', hl', hm', he⟩ | ⟨xs, xs', l'', m'', hl', hm', hxs, hS'⟩ :=
            ih _ hlt hS (hmode'.trans hmode) rfl
          · simp only
            rw [hl', hm']
            exact .inl ⟨e, e', rfl, rfl, he⟩
          · simp only [hl', hm']
            exact .inr ⟨_ :: xs, _ :: xs', l'', m'', rfl, rfl, .cons (.mk hposition _) hxs, hS'⟩

/-- Related lexers read the same item or the same error, unless they are at the exit. -/
theorem Simulation.nextItem (hsim : Simulation R S E) {l m : Lexer} (h : S l m) :
    E l m ∨
      (∃ e e', l.nextItem.1 = .error e ∧ m.nextItem.1 = .error e' ∧ e.Matches R e') ∨
      ∃ item item' l' m', l.nextItem = (.ok (some item), l') ∧
        m.nextItem = (.ok (some item'), m') ∧ item.Matches R item' ∧ S l' m' := by
  obtain hexit | hstep := hsim.step h
  · exact .inl hexit
  refine .inr ?_
  unfold Lexer.nextItem
  cases hstep with
  | error hl hm he =>
    rw [hl, hm]
    exact .inl ⟨_, _, rfl, rfl, .lex he⟩
  | @lexeme x x' l' m' hl hm hx hS =>
    rw [hl, hm]
    have hmode := mode_of_next hl
    have hunexpected := hx.unexpected .textOrTag
    cases hx with
    | @mk p p' hposition token =>
      cases token with
      | text s => exact .inr ⟨_, _, l', m', rfl, rfl, .node _, hS⟩
      | startTag escaped =>
        simp only
        obtain ⟨e, e', hl', hm', he⟩ | ⟨xs, xs', l'', m'', hl', hm', hxs, hS'⟩ :=
          hsim.tagLexemes escaped hposition hS hmode
        · rw [show l'.tagLexemes escaped p = (.error e, _) from Prod.ext hl' rfl,
            show m'.tagLexemes escaped p' = (.error e', _) from Prod.ext hm' rfl]
          exact .inl ⟨e, e', rfl, rfl, he⟩
        · rw [hl', hm']
          have hitem := Item.agree_ofTag hposition hxs escaped
          simp only
          generalize Item.ofTag escaped p xs = item at hitem ⊢
          generalize Item.ofTag escaped p' xs' = item' at hitem ⊢
          cases hitem with
          | error he => exact .inl ⟨_, _, rfl, rfl, he⟩
          | ok hitem => exact .inr ⟨_, _, l'', m'', rfl, rfl, hitem, hS'⟩
      | _ => exact .inl ⟨_, _, rfl, rfl, hunexpected⟩

end Lexer

/-- From related lexers the parser comes to the same error, or to the exit with matching
outlines. -/
theorem Lexer.Simulation.assemble (hN : Grows N) (hsim : Lexer.Simulation R S E) (limit : Nat)
    {o o' : Outline} (ho : o.Matches R N o') {l m : Lexer} (h : S l m) :
    (∃ e e', (Parser.assemble limit o l).1 = .error e ∧
        (Parser.assemble limit o' m).1 = .error e' ∧ e.Matches R e') ∨
      ∃ o₁ o₁' l₁ m₁, o₁.Matches R N o₁' ∧ E l₁ m₁ ∧
        Parser.assemble limit o l = Parser.assemble limit o₁ l₁ ∧
        Parser.assemble limit o' m = Parser.assemble limit o₁' m₁ := by
  induction hn : l.rest.length using Nat.strongRecOn generalizing o o' l m with
  | ind n ih =>
    obtain hexit | ⟨e, e', hl, hm, he⟩ | ⟨item, item', l', m', hl, hm, hitem, hS⟩ := hsim.nextItem h
    · exact .inr ⟨o, o', l, m, ho, hexit, rfl, rfl⟩
    · refine .inl ⟨e, e', ?_, ?_, he⟩
      · rw [Parser.assemble_eq, show l.nextItem = (.error e, _) from Prod.ext hl rfl]
      · rw [Parser.assemble_eq, show m.nextItem = (.error e', _) from Prod.ext hm rfl]
    · have hlt : l'.rest.length < n := hn ▸ Lexer.length_rest_of_nextItem hl
      have hadd := ho.add hN hitem limit
      rw [Parser.assemble_eq limit o l, Parser.assemble_eq limit o' m, hl, hm]
      simp only
      generalize o.add limit item = added at hadd ⊢
      generalize o'.add limit item' = added' at hadd ⊢
      cases hadd with
      | error he => exact .inl ⟨_, _, rfl, rfl, he⟩
      | ok ho₁ => exact ih _ hlt ho₁ hS rfl

/-- Related lexers give the same tokens in a row, if the exit is the end of the source. -/
theorem Lexer.Simulation.exists_yields (hsim : Lexer.Simulation R S E)
    (hend : ∀ {l m}, E l m → l.next.1 = .ok none) {l l' m : Lexer} {lexemes : List Lexeme}
    (hrun : l.Yields lexemes l') (h : S l m) :
    ∃ lexemes' m', m.Yields lexemes' m' ∧
      lexemes'.map Lexeme.token = lexemes.map Lexeme.token ∧ S l' m' := by
  induction hrun generalizing m with
  | nil => exact ⟨[], m, .nil m, rfl, h⟩
  | cons hnext _ ih =>
    obtain hexit | hstep := hsim.step h
    · have hnone := hend hexit
      rw [hnext] at hnone
      cases hnone
    · cases hstep with
      | error hl =>
        rw [hl] at hnext
        cases hnext
      | lexeme hl hm hx hS =>
        rw [hl] at hnext
        cases hnext
        obtain ⟨lexemes', m', hrun', hmap, hS'⟩ := ih hS
        cases hx with
        | mk _ token => exact ⟨_, m', .cons hm hrun', congrArg (token :: ·) hmap, hS'⟩

end

/-- At the end of a source the outline is finished. -/
theorem Parser.assemble_of_end {l : Lexer} (h : l.next = (.ok none, l)) (limit : Nat)
    (o : Outline) : assemble limit o l = (o.finish, l) := by
  simp only [assemble_eq, Lexer.nextItem, h]

theorem Parser.assemble_of_text {l l' : Lexer} {s : String} {p : Position}
    (h : l.next = (.ok (some ⟨.text s, p⟩), l')) (limit : Nat) (o : Outline) :
    assemble limit o l = assemble limit { o with nodes := .text s :: o.nodes } l' := by
  rw [assemble_eq, Lexer.nextItem_of_text h]
  rfl

-- ════════════════════════════════════════════════════════════════════════
-- Up to the ends of the sources
-- ════════════════════════════════════════════════════════════════════════

/-- Lexers that have both come to the end of their sources. -/
def Lexer.BothEnd (l m : Lexer) : Prop :=
  l.next = (.ok none, l) ∧ m.next = (.ok none, m)

section

variable {R : Position → Position → Prop} {S : Lexer → Lexer → Prop}
  {N : List Node → List Node → Prop}

/-- Where lexers are related up to the ends of their sources, what one reads in full the other reads
as the same tokens. -/
theorem Lexer.Simulation.exists_tokens (hsim : Lexer.Simulation R S Lexer.BothEnd) {l m : Lexer}
    (h : S l m) {lexemes : List Lexeme} (htokens : l.tokens = .ok lexemes) :
    ∃ lexemes', m.tokens = .ok lexemes' ∧
      lexemes'.map Lexeme.token = lexemes.map Lexeme.token := by
  obtain ⟨l', hrun, hend⟩ := Lexer.tokens_eq_ok_iff.1 htokens
  obtain ⟨lexemes', m', hrun', hmap, hS⟩ :=
    hsim.exists_yields (fun hexit => congrArg Prod.fst hexit.1) hrun h
  obtain hexit | hstep := hsim.step hS
  · exact ⟨lexemes', Lexer.tokens_eq_ok_iff.2 ⟨m', hrun', hexit.2⟩, hmap⟩
  · cases hstep with
    | error hl =>
      rw [hend] at hl
      cases hl
    | lexeme hl =>
      rw [hend] at hl
      cases hl

/-- Where lexers are related up to the ends of their sources, the parser agrees on them. -/
theorem Lexer.Simulation.agree_assemble (hsim : Lexer.Simulation R S Lexer.BothEnd) (hN : Grows N)
    {o o' : Outline} (ho : o.Matches R N o') {l m : Lexer} (h : S l m) (limit : Nat) :
    Agree (ParseError.Matches R) N (Parser.assemble limit o l).1 (Parser.assemble limit o' m).1 := by
  obtain ⟨e, e', hl, hm, he⟩ | ⟨o₁, o₁', l₁, m₁, ho₁, ⟨hl₁, hm₁⟩, hl, hm⟩ :=
    hsim.assemble hN limit ho h
  · rw [hl, hm]
    exact .error he
  · rw [hl, hm, Parser.assemble_of_end hl₁, Parser.assemble_of_end hm₁]
    exact ho₁.finish

end

-- ════════════════════════════════════════════════════════════════════════
-- Sources that begin alike
-- ════════════════════════════════════════════════════════════════════════

/-- Lexers that read the same lexemes up to a place between tags are related up to there. -/
theorem Lexer.simulation_yields {R : Position → Position → Prop} (hR : ∀ p, R p p) (l' m' : Lexer)
    (hmode : l'.mode = .text) :
    Simulation R (fun l m => ∃ lexemes, l.Yields lexemes l' ∧ m.Yields lexemes m')
      fun l m => l = l' ∧ m = m' := by
  refine ⟨?_, ?_⟩
  · rintro l m ⟨lexemes, hl, hm⟩
    cases hl with
    | nil =>
      cases hm
      exact .inl ⟨rfl, rfl⟩
    | @cons _ _ _ x lexemes hnext hl =>
      cases hm with
      | cons hnext' hm =>
        exact .inr (.lexeme hnext hnext' (.mk (hR x.position) x.token) ⟨lexemes, hl, hm⟩)
  · rintro l m ⟨rfl, -⟩
    exact hmode

-- ════════════════════════════════════════════════════════════════════════
-- The same text at other places
-- ════════════════════════════════════════════════════════════════════════

section

variable (R : Position → Position → Prop)

/-- Modes that are both between tags, or inside tags opened at related positions. -/
inductive Mode.Matches : Mode → Mode → Prop
  | text : Matches .text .text
  | tag {p p' : Position} (h : R p p') : Matches (.tag p) (.tag p')

/-- Lexers in front of the same text, at related positions. -/
structure Lexer.Alike (l m : Lexer) : Prop where
  rest : m.rest = l.rest
  position : R l.position m.position
  mode : l.mode.Matches R m.mode

end

section

variable {R : Position → Position → Prop} (hR : ∀ p p' c, R p p' → R (p.after c) (p'.after c))
  {p p' : Position} {l m : Lexer}

include hR

theorem advance_related (h : R p p') (cs : List Char) : R (p.advance cs) (p'.advance cs) := by
  induction cs generalizing p p' with
  | nil => exact h
  | cons c cs ih => exact ih (hR p p' c h)

omit hR in
/-- What is scanned inside a tag does not depend on positions. -/
theorem agree_scanTag {opened opened' : Position} (hopened : R opened opened') (hp : R p p')
    (cs : List Char) :
    Agree (LexError.Matches R) Eq (scanTag opened p cs) (scanTag opened' p' cs) := by
  cases cs with
  | nil => exact .error (.unterminated hopened)
  | cons c cs =>
    unfold scanTag
    simp only
    split
    · split
      · exact .ok rfl
      · exact .ok rfl
      · exact .error (.unexpectedClose hp)
    split
    · exact .ok rfl
    split
    · split
      · exact .ok rfl
      · exact .error (.unterminatedString hp)
    split
    · split
      · exact .ok rfl
      · exact .error (.unterminated hopened)
    split
    · exact .ok rfl
    · exact .error (.unparseable hp c)

theorem Lexer.Alike.behind (h : l.Alike R m) (scan : Scan) :
    (l.behind scan).Alike R (m.behind scan) := by
  refine ⟨rfl, advance_related hR h.position scan.slice, ?_⟩
  simp only [Lexer.behind]
  cases scan.token with
  | startTag => exact .tag h.position
  | endTag => exact .text
  | _ => exact h.mode

theorem Lexer.Alike.skipBlanks (h : l.Alike R m) : l.skipBlanks.Alike R m.skipBlanks := by
  refine ⟨?_, ?_, h.mode⟩
  · simp only [Lexer.skipBlanks, h.rest]
  · simp only [Lexer.skipBlanks, h.rest]
    exact advance_related hR h.position _

/-- The same text is read alike wherever it stands, up to its end. -/
theorem Lexer.simulation_alike : Lexer.Simulation R (Lexer.Alike R) Lexer.BothEnd := by
  refine ⟨?_, fun h => (Lexer.next_eq_none h.1).1⟩
  intro l m h
  have hmode := h.mode
  generalize hl : l.mode = mode at hmode
  generalize hm : m.mode = mode' at hmode
  cases hmode with
  | text =>
    cases hscan : scanText? l.rest with
    | none => exact .inl ⟨Lexer.next_of_end hl hscan, Lexer.next_of_end hm (h.rest ▸ hscan)⟩
    | some scan =>
      exact .inr (.lexeme (Lexer.next_of_scanText? hl hscan)
        (Lexer.next_of_scanText? hm (h.rest ▸ hscan)) (.mk h.position scan.token)
        (h.behind hR scan))
  | @tag opened opened' hopened =>
    refine .inr ?_
    have hskip := h.skipBlanks hR
    have hscan := agree_scanTag hopened hskip.position l.skipBlanks.rest
    cases hleft : scanTag opened l.skipBlanks.position l.skipBlanks.rest with
    | error e =>
      rw [hleft] at hscan
      generalize hright : scanTag opened' m.skipBlanks.position l.skipBlanks.rest = right at hscan
      cases hscan with
      | error he =>
        exact .error (Lexer.next_of_scanTag_error hl hleft)
          (Lexer.next_of_scanTag_error hm (hskip.rest ▸ hright)) he
    | ok scan =>
      rw [hleft] at hscan
      generalize hright : scanTag opened' m.skipBlanks.position l.skipBlanks.rest = right at hscan
      cases hscan with
      | ok heq =>
        subst heq
        exact .lexeme (Lexer.next_of_scanTag hl hleft)
          (Lexer.next_of_scanTag hm (hskip.rest ▸ hright)) (.mk hskip.position scan.token)
          (hskip.behind hR scan)

/-- From matching outlines the same text is parsed alike wherever it stands. -/
theorem Lexer.Alike.agree_assemble {N : List Node → List Node → Prop} (hN : Grows N)
    {o o' : Outline} (ho : o.Matches R N o') (h : l.Alike R m) (limit : Nat) :
    Agree (ParseError.Matches R) N (Parser.assemble limit o l).1 (Parser.assemble limit o' m).1 :=
  (Lexer.simulation_alike hR).agree_assemble hN ho h limit

end

end TextTemplate

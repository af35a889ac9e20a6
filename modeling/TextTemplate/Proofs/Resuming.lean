import TextTemplate.Proofs.Counting
import TextTemplate.Proofs.OwnFaults
import TextTemplate.Proofs.Shifting
import TextTemplate.Proofs.Token.Progress
import TextTemplate.Proofs.Token.Tiling

/-!
# Parsing on

A parser can be asked for more after any result. At the end of the source, and at an error of the
lexer, it stays. Any other fault leaves it between tags, with no block open: behind the tag that is
at fault, or at the end of the source. From there it reads what is left as a source of its own.

## Main definitions

- `Scans` — a scan that comes from one place to another, with the blocks that are open at both
- `StopsAt` — the tag, or the end of the source, that stops a scan, and the lexer behind it
- `Lexer.PassesTo` — a lexer further on in the same source
- `Parser.after`, `CountingParser.after` — the parser behind a number of calls
- `CountingParser.Rests` — what holds of a parser between two calls

## Main statements

- `Parser.stopsAt_of_assemble` — where a fault leaves the lexer
- `parsing_goes_on` — what a parser gives after each kind of result
-/

namespace TextTemplate

/-- A scan comes from one place to another: the items between them fit the blocks that are open. -/
inductive Scans (limit : Nat) : List OpenBlock → Lexer → List OpenBlock → Lexer → Prop
  | nil (blocks : List OpenBlock) (l : Lexer) : Scans limit blocks l blocks l
  | cons {blocks blocks₁ blocks₂ : List OpenBlock} {l l₁ l₂ : Lexer} {item : Item} :
      l.Spells item l₁ → Passes limit blocks item blocks₁ → Scans limit blocks₁ l₁ blocks₂ l₂ →
      Scans limit blocks l blocks₂ l₂

/-- A fault stops a scan with blocks open, and leaves the lexer at a place: behind a tag that is at
fault, by itself or among the open blocks, or at the end of the source with a block still open. -/
inductive StopsAt (limit : Nat) (blocks : List OpenBlock) (l : Lexer) (e : ParseError) :
    Lexer → Prop
  | tag {l' : Lexer} {escaped closed : Bool} {opened closing : Position} {inner : List Lexeme} :
      (∀ lexeme ∈ inner, lexeme.token.IsInner) →
      l.Yields (Lexeme.tag escaped closed opened closing inner) l' →
      (l.TagFault e ∨ ∃ item, l.Spells item l' ∧ Offends limit blocks item e) →
      StopsAt limit blocks l e l'
  | source {name : String} {opened : Position} {hasElse : Bool} {around : List OpenBlock} :
      l.next = (.ok none, l) → blocks = ⟨name, opened, hasElse⟩ :: around →
      e = .unclosedBlock name opened → StopsAt limit blocks l e l

theorem Offends.isOwn {limit : Nat} {blocks : List OpenBlock} {item : Item} {e : ParseError}
    (h : Offends limit blocks item e) : e.IsOwn := by
  cases h <;> trivial

/-- An item that does not fit the open blocks is a tag. -/
theorem Offends.stopsAt {limit : Nat} {blocks : List OpenBlock} {l l' : Lexer} {item : Item}
    {e : ParseError} (h : Offends limit blocks item e) (hspells : l.Spells item l') :
    StopsAt limit blocks l e l' := by
  cases hspells with
  | text => cases h
  | tag hinner hrun hitem => exact .tag hinner hrun (.inr ⟨item, .tag hinner hrun hitem, h⟩)

-- ════════════════════════════════════════════════════════════════════════
-- Where a result leaves the lexer
-- ════════════════════════════════════════════════════════════════════════

/-- A source is read to its end where it is a template. -/
theorem Parser.next_of_assemble_eq_ok {limit : Nat} {outline : Outline} {l l' : Lexer}
    {nodes : List Node} (h : assemble limit outline l = (.ok nodes, l')) :
    l'.next = (.ok none, l') := by
  fun_induction assemble limit outline l with
  | case1 => cases h
  | case2 outline l l₁ hitem =>
    obtain ⟨hend, rfl⟩ := Lexer.next_of_nextItem_eq_none hitem
    obtain rfl : l₁ = l' := congrArg Prod.snd h
    exact hend
  | case3 => cases h
  | case4 outline l item l₁ hitem outline₁ hadd ih => exact ih h

/-- A fault of the lexer leaves it where it goes on to fail. Any other fault leaves it between tags,
behind the tag that stops the scan or at the end of the source. -/
theorem Parser.stopsAt_of_assemble {limit : Nat} {outline : Outline} {l l' : Lexer}
    {e : ParseError} (hroom : outline.blocks.length ≤ limit) (hmode : l.mode = .text)
    (h : assemble limit outline l = (.error e, l')) :
    (∃ fault, e = .lex fault ∧ l'.next = (.error fault, l')) ∨
      e.IsOwn ∧ l'.mode = .text ∧
        ∃ blocks l₀, Scans limit outline.blocks l blocks l₀ ∧ StopsAt limit blocks l₀ e l' := by
  fun_induction assemble limit outline l with
  | case1 outline l e' l₁ hitem =>
    cases h
    obtain hlex | ⟨escaped, closed, opened, closing, inner, hinner, hrun, hmode', hown⟩ :=
      Lexer.nextItem_eq_error hmode hitem
    · exact .inl hlex
    · have hfault := Lexer.tagFault_of_nextItem hmode hitem
      exact .inr ⟨hown, hmode', _, l, .nil _ l, .tag hinner hrun (.inl hfault)⟩
  | case2 outline l l₁ hitem =>
    obtain ⟨hend, rfl⟩ := Lexer.next_of_nextItem_eq_none hitem
    obtain ⟨hfinish, rfl⟩ := Prod.mk.inj h
    unfold Outline.finish at hfinish
    split at hfinish
    · cases hfinish
    · next frame frames hframes =>
      cases hfinish
      have hblocks : outline.blocks =
          ⟨frame.name, frame.opened, frame.consequent?.isSome⟩ :: frames.map Frame.openBlock := by
        rw [Outline.blocks, hframes, List.map_cons]
        rfl
      exact .inr ⟨trivial, hmode, _, l₁, .nil _ l₁, .source hend hblocks rfl⟩
  | case3 outline l item l₁ hitem e' hadd =>
    cases h
    have hspells := Lexer.nextItem_eq_some_iff.1 hitem
    rw [Outline.length_blocks] at hroom
    have hoffends := offends_of_add hroom hadd
    exact .inr ⟨hoffends.isOwn, Lexer.mode_of_spells hspells hmode, _, l, .nil _ l,
      hoffends.stopsAt hspells⟩
  | case4 outline l item l₁ hitem outline₁ hadd ih =>
    have hspells := Lexer.nextItem_eq_some_iff.1 hitem
    have hpasses := passes_of_add hadd
    obtain hlex | ⟨hown, hmode', blocks, l₀, hscans, hstops⟩ :=
      ih (hpasses.length_le hroom) (Lexer.mode_of_spells hspells hmode) h
    · exact .inl hlex
    · exact .inr ⟨hown, hmode', blocks, l₀, .cons hspells hpasses hscans, hstops⟩

-- ════════════════════════════════════════════════════════════════════════
-- One source all along
-- ════════════════════════════════════════════════════════════════════════

namespace Lexer

/-- The second lexer stands further on in the same source, at the position behind what lies between
them. -/
def PassesTo (l l' : Lexer) : Prop :=
  ∃ passed, l.rest = passed ++ l'.rest ∧ l'.position = l.position.advance passed

theorem PassesTo.refl (l : Lexer) : l.PassesTo l :=
  ⟨[], rfl, rfl⟩

theorem PassesTo.trans {l l₁ l₂ : Lexer} (h : l.PassesTo l₁) (h' : l₁.PassesTo l₂) :
    l.PassesTo l₂ := by
  obtain ⟨passed, hrest, hposition⟩ := h
  obtain ⟨passed', hrest', hposition'⟩ := h'
  refine ⟨passed ++ passed', ?_, ?_⟩
  · rw [hrest, hrest', List.append_assoc]
  · rw [hposition', hposition, Position.advance_append]

theorem passesTo_next (l : Lexer) : l.PassesTo l.next.2 := by
  match hnext : l.next with
  | (.error e, l') =>
    obtain ⟨_, -, -, rfl⟩ := next_eq_error hnext
    exact ⟨_, List.takeWhile_append_dropWhile.symm, rfl⟩
  | (.ok none, l') =>
    obtain ⟨-, -, rfl⟩ := next_eq_none hnext
    exact .refl l'
  | (.ok (some lexeme), l') =>
    obtain ⟨passed, -, hrest, hposition⟩ := exists_passed_of_next hnext
    exact ⟨passed, hrest, hposition⟩

theorem passesTo_tagLexemes (escaped : Bool) (opened : Position) (l : Lexer) :
    l.PassesTo (l.tagLexemes escaped opened).2 := by
  fun_induction tagLexemes escaped opened l with
  | case7 l lexeme l₁ hnext result l₂ hmore _ _ _ ih =>
    have hpasses := passesTo_next l
    rw [hnext] at hpasses
    rw [hmore] at ih
    exact hpasses.trans ih
  | _ l =>
    have hpasses := passesTo_next l
    simp_all

theorem passesTo_nextItem (l : Lexer) : l.PassesTo l.nextItem.2 := by
  have hpasses := passesTo_next l
  unfold nextItem
  split
  · next hnext => rwa [hnext] at hpasses
  · next hnext => rwa [hnext] at hpasses
  · next lexeme l₁ hnext =>
    rw [hnext] at hpasses
    split
    · exact hpasses
    · next escaped _ =>
      have htag := passesTo_tagLexemes escaped lexeme.position l₁
      split
      all_goals
        next htagLexemes =>
        rw [htagLexemes] at htag
        exact hpasses.trans htag
    · exact hpasses

end Lexer

theorem Parser.passesTo_assemble (limit : Nat) (outline : Outline) (l : Lexer) :
    l.PassesTo (assemble limit outline l).2 := by
  fun_induction assemble limit outline l with
  | case1 outline l e l₁ hitem | case2 outline l l₁ hitem | case3 outline l item l₁ hitem e hadd =>
    have hpasses := l.passesTo_nextItem
    rwa [hitem] at hpasses
  | case4 outline l item l₁ hitem outline₁ hadd ih =>
    have hpasses := l.passesTo_nextItem
    rw [hitem] at hpasses
    exact hpasses.trans ih

-- ════════════════════════════════════════════════════════════════════════
-- Calls of a parser
-- ════════════════════════════════════════════════════════════════════════

/-- The parser behind a number of calls, each from where the one before it stopped. -/
def Parser.after : Nat → Parser → Parser
  | 0, p => p
  | n + 1, p => after n p.parse.2

namespace CountingParser

@[inherit_doc Parser.after]
def after : Nat → CountingParser → CountingParser
  | 0, p => p
  | n + 1, p => after n p.parse.2

theorem after_of_parse_self {p : CountingParser} {result : Except ParseError (List Node)}
    (h : p.parse = (result, p)) (n : Nat) : after n p = p := by
  induction n with
  | zero => rfl
  | succ n ih => rw [after, h, ih]

/-- What holds of a parser for a source between two calls: no block is open, and it stands in the
source between tags, or where its lexer goes on to fail. -/
structure Rests (source : String) (limit : Nat) (p : CountingParser) : Prop where
  limit : p.limit = limit
  depth : p.depth = 0
  lexer : p.lexer.mode = .text ∨ ∃ fault, p.lexer.next = (.error fault, p.lexer)
  passed : (Lexer.ofSource source).PassesTo p.lexer

theorem rests_ofSource (source : String) (limit : Nat) :
    Rests source limit (ofSource source limit) :=
  ⟨rfl, rfl, .inl rfl, .refl _⟩

variable {source : String} {limit : Nat} {p : CountingParser}

/-- Between two calls the count of a parser decides nothing. -/
theorem Rests.parse_eq (h : p.Rests source limit) :
    p.parse = (p.toParser.parse.1, ⟨p.toParser.parse.2, 0⟩) := by
  obtain ⟨parser, depth⟩ := p
  obtain rfl : depth = 0 := h.depth
  exact CountingParser.parse_eq parser

/-- At the end of the source a parser finds nothing more. -/
theorem Rests.parse_of_end (h : p.Rests source limit) (hend : p.lexer.next = (.ok none, p.lexer)) :
    p.parse = (.ok [], p) := by
  obtain ⟨⟨lexer, limit'⟩, depth⟩ := p
  obtain rfl : depth = 0 := h.depth
  rw [h.parse_eq, Parser.parse, Parser.assemble_of_end hend]
  rfl

/-- Where its lexer goes on to fail, a parser does. -/
theorem Rests.parse_of_fault (h : p.Rests source limit) {fault : LexError}
    (hfault : p.lexer.next = (.error fault, p.lexer)) : p.parse = (.error (.lex fault), p) := by
  obtain ⟨⟨lexer, limit'⟩, depth⟩ := p
  obtain rfl : depth = 0 := h.depth
  have hassemble : Parser.assemble limit' .empty lexer = (.error (.lex fault), lexer) := by
    simp only [Parser.assemble_eq, Lexer.nextItem, hfault]
  rw [h.parse_eq, Parser.parse, hassemble]

/-- The results of a call, and where each leaves the lexer: the end of the source, the place where
the lexer goes on to fail, or a place between tags behind what is at fault. -/
theorem Rests.parse_cases (h : p.Rests source limit) :
    (∃ nodes, p.parse.1 = .ok nodes ∧
      p.parse.2.lexer.next = (.ok none, p.parse.2.lexer)) ∨
    (∃ fault, p.parse.1 = .error (.lex fault) ∧
      p.parse.2.lexer.next = (.error fault, p.parse.2.lexer)) ∨
    ∃ e, p.parse.1 = .error e ∧ e.IsOwn ∧ p.parse.2.lexer.mode = .text ∧
      ∃ blocks l, Scans limit [] p.lexer blocks l ∧ StopsAt limit blocks l e p.parse.2.lexer := by
  obtain hmode | ⟨fault, hfault⟩ := h.lexer
  · rw [h.parse_eq, Parser.parse, h.limit]
    generalize hassemble : Parser.assemble limit .empty p.lexer = read
    obtain ⟨e | nodes, l'⟩ := read
    · obtain ⟨fault, rfl, hfault⟩ | ⟨hown, hmode', hstops⟩ :=
        Parser.stopsAt_of_assemble (Nat.zero_le limit) hmode hassemble
      · exact .inr (.inl ⟨fault, rfl, hfault⟩)
      · exact .inr (.inr ⟨e, rfl, hown, hmode', hstops⟩)
    · exact .inl ⟨nodes, rfl, Parser.next_of_assemble_eq_ok hassemble⟩
  · rw [h.parse_of_fault hfault]
    exact .inr (.inl ⟨fault, rfl, hfault⟩)

/-- A call leaves a parser as it found it, further on in the source. -/
theorem Rests.parse (h : p.Rests source limit) : Rests source limit p.parse.2 := by
  have hlexer : p.parse.2.lexer.mode = .text ∨
      ∃ fault, p.parse.2.lexer.next = (.error fault, p.parse.2.lexer) := by
    obtain ⟨nodes, -, hend⟩ | ⟨fault, -, hfault⟩ | ⟨e, -, -, hmode, -⟩ := h.parse_cases
    · exact .inl (Lexer.next_eq_none hend).1
    · exact .inr ⟨fault, hfault⟩
    · exact .inl hmode
  refine ⟨?_, ?_, hlexer, h.passed.trans ?_⟩
  · rw [h.parse_eq]
    exact h.limit
  · rw [h.parse_eq]
  · rw [h.parse_eq]
    exact Parser.passesTo_assemble p.limit .empty p.lexer

theorem Rests.after (h : p.Rests source limit) (n : Nat) : Rests source limit (p.after n) := by
  induction n generalizing p with
  | zero => exact h
  | succ n ih => exact ih h.parse

/-- Behind any number of calls a parser stands where it does without a count. -/
theorem Rests.toParser_after (h : p.Rests source limit) (n : Nat) :
    (p.after n).toParser = p.toParser.after n := by
  induction n generalizing p with
  | zero => rfl
  | succ n ih => rw [CountingParser.after, ih h.parse, Parser.after, h.parse_eq]

/-- Between tags a parser reads what is left as a source of its own. -/
theorem Rests.parse_shift (h : p.Rests source limit) (hmode : p.lexer.mode = .text) :
    p.parse.1 =
      (ofSource (String.ofList p.lexer.rest) limit).parse.1.mapError
        (·.mapPosition p.lexer.position.shift) := by
  rw [h.parse_eq, (rests_ofSource _ limit).parse_eq]
  obtain ⟨⟨⟨rest, position, mode⟩, limit'⟩, depth⟩ := p
  obtain rfl : mode = .text := hmode
  obtain rfl : limit' = limit := h.limit
  simpa [Parser.parse, ofSource, Parser.ofSource, Lexer.ofSource] using
    Parser.assemble_shift limit' rest position

end CountingParser

/-- A parser goes on from where a call has left it, whatever has come of this. Behind a template it
finds nothing more, and an error of the lexer is repeated as it is. After any other error no block
counts as open, and the parser stands between tags: behind the tag that is at fault where it was
found, or at the end of the source. What is left from there is parsed as a source of its own under
the same limit, but for the positions in errors, which are those of the whole source. -/
theorem parsing_goes_on (source : String) (limit n : Nat) :
    let p := CountingParser.after n (.ofSource source limit)
    let q := p.parse.2
    p.toParser.parse = (p.parse.1, q.toParser) ∧
    (∀ nodes, p.parse.1 = .ok nodes → ∀ m, (q.after m).parse.1 = .ok []) ∧
    (∀ fault, p.parse.1 = .error (.lex fault) →
      ∀ m, (q.after m).parse.1 = .error (.lex fault)) ∧
    ∀ e, p.parse.1 = .error e → (∀ fault, e ≠ .lex fault) →
      q.depth = 0 ∧ q.lexer.mode = .text ∧
      (∃ blocks l, Scans limit [] p.lexer blocks l ∧ StopsAt limit blocks l e q.lexer) ∧
      (∃ passed, source.toList = passed ++ q.lexer.rest ∧ q.lexer.position = .behind passed) ∧
      q.parse.1 =
        (CountingParser.ofSource (String.ofList q.lexer.rest) limit).parse.1.mapError
          (·.mapPosition q.lexer.position.shift) := by
  intro p q
  have hp : p.Rests source limit := (CountingParser.rests_ofSource source limit).after n
  have hq : q.Rests source limit := hp.parse
  refine ⟨?_, ?_, ?_, ?_⟩
  · simp only [q, hp.parse_eq]
  · intro nodes hnodes m
    obtain ⟨_, -, hend⟩ | ⟨fault, herror, -⟩ | ⟨e, herror, -⟩ := hp.parse_cases
    · have hself := hq.parse_of_end hend
      rw [CountingParser.after_of_parse_self hself, hself]
    all_goals
      rw [hnodes] at herror
      cases herror
  · intro fault hfault m
    obtain ⟨nodes, hnodes, -⟩ | ⟨fault', herror, hstuck⟩ | ⟨e, herror, hown, -⟩ := hp.parse_cases
    · rw [hfault] at hnodes
      cases hnodes
    · rw [hfault] at herror
      cases herror
      have hself := hq.parse_of_fault hstuck
      rw [CountingParser.after_of_parse_self hself, hself]
    · rw [hfault] at herror
      cases herror
      exact hown.elim
  · intro e he hother
    obtain ⟨nodes, hnodes, -⟩ | ⟨fault, herror, -⟩ | ⟨e', herror, -, hmode, hstops⟩ :=
      hp.parse_cases
    · rw [he] at hnodes
      cases hnodes
    · rw [he] at herror
      cases herror
      exact absurd rfl (hother fault)
    · rw [he] at herror
      cases herror
      obtain ⟨passed, hrest, hposition⟩ := hq.passed
      refine ⟨hq.depth, hmode, hstops, ⟨passed, hrest, ?_⟩, hq.parse_shift hmode⟩
      rw [hposition]
      exact Position.advance_behind [] passed

/-- A closer without a block, a block that another one closes, and a tag that cannot be read. -/
def faultySource : String :=
  "\x7b\x7b/a\x7d\x7d\n\x7b\x7b#b\x7d\x7d\x7b\x7b/c\x7d\x7d \x7b\x7b%"

theorem parsing_goes_on_faultySource :
    ((CountingParser.ofSource faultySource 8).parse.1 = .error (.strayClose "a" ⟨2, 1, 3⟩) ∧
      (CountingParser.ofSource faultySource 8).parse.2.depth = 0 ∧
      (CountingParser.ofSource faultySource 8).parse.2.parse.1 =
        (CountingParser.ofSource
            "\n\x7b\x7b#b\x7d\x7d\x7b\x7b/c\x7d\x7d \x7b\x7b%" 8).parse.1.mapError
          (·.mapPosition (Position.shift ⟨6, 1, 7⟩))) ∧
    (CountingParser.after 1 (.ofSource faultySource 8)).parse.1 =
      .error (.mismatchedBlock "b" "c" ⟨9, 2, 3⟩ ⟨15, 2, 9⟩) ∧
    ((CountingParser.after 2 (.ofSource faultySource 8)).parse.1 =
        .error (.lex (.unparseable ⟨22, 2, 16⟩ '%')) ∧
      ∀ m, ((CountingParser.after 2 (.ofSource faultySource 8)).parse.2.after m).parse.1 =
        .error (.lex (.unparseable ⟨22, 2, 16⟩ '%'))) ∧
    (CountingParser.ofSource "a" 8).parse.1 = .ok [.text "a"] ∧
      ∀ m, ((CountingParser.ofSource "a" 8).parse.2.after m).parse.1 = .ok [] := by
  have hstray : (CountingParser.ofSource faultySource 8).parse.1 =
      .error (.strayClose "a" ⟨2, 1, 3⟩) := by
    with_unfolding_all rfl
  have hmismatched : (CountingParser.after 1 (.ofSource faultySource 8)).parse.1 =
      .error (.mismatchedBlock "b" "c" ⟨9, 2, 3⟩ ⟨15, 2, 9⟩) := by
    with_unfolding_all rfl
  have hlex : (CountingParser.after 2 (.ofSource faultySource 8)).parse.1 =
      .error (.lex (.unparseable ⟨22, 2, 16⟩ '%')) := by
    with_unfolding_all rfl
  have hplain : (CountingParser.ofSource "a" 8).parse.1 = .ok [.text "a"] := by
    with_unfolding_all rfl
  obtain ⟨-, -, -, hother⟩ := parsing_goes_on faultySource 8 0
  obtain ⟨hdepth, -, -, -, hnext⟩ := hother _ hstray (by simp)
  obtain ⟨-, -, hrepeated, -⟩ := parsing_goes_on faultySource 8 2
  obtain ⟨-, hnothing, -⟩ := parsing_goes_on "a" 8 0
  refine ⟨⟨hstray, hdepth, ?_⟩, hmismatched, ⟨hlex, hrepeated _ hlex⟩, hplain,
    hnothing _ hplain⟩
  have hlexer : (CountingParser.ofSource faultySource 8).parse.2.lexer =
      ⟨"\n\x7b\x7b#b\x7d\x7d\x7b\x7b/c\x7d\x7d \x7b\x7b%".toList, ⟨6, 1, 7⟩, .text⟩ := by
    with_unfolding_all rfl
  simp only [CountingParser.after] at hnext
  rwa [hlexer, String.ofList_toList] at hnext

end TextTemplate

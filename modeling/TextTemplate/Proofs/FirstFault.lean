import TextTemplate.Proofs.Descent
import TextTemplate.Proofs.Item

/-!
# The first fault of a template

A template is scanned from left to right with the blocks that are open, innermost first. The scan
stops at the first place where a tag cannot be read, says nothing by itself, or does not fit the
open blocks, or at the end of the source if a block is still open there. The parser reports the
fault of that place, and succeeds where there is none.

## Main definitions

- `Lexer.Spells`, `Lexer.TagFault` — what a text or tag says, and what is wrong with a tag by itself
- `OpenBlock` — what the scan keeps of a block
- `Passes`, `Offends` — an item that fits the open blocks, and one that does not
- `FirstFault` — the fault at which the scan stops
-/

namespace TextTemplate

/-- The item that the text or tag ahead says. -/
inductive Lexer.Spells : Lexer → Item → Lexer → Prop
  | text {l l' : Lexer} {s : String} {position : Position} :
      l.Yields [⟨.text s, position⟩] l' → Spells l (.node (.text s)) l'
  | tag {l l' : Lexer} {escaped : Bool} {opened closing : Position} {inner : List Lexeme}
      {item : Item} :
      (∀ lexeme ∈ inner, lexeme.token.IsInner) →
      l.Yields (Lexeme.tag escaped escaped opened closing inner) l' →
      Item.ofTag escaped opened inner = .ok item → Spells l item l'

/-- What is wrong with the tag ahead: it cannot be read to its end, it is closed by the other
marker, it is empty, or what stands in it says nothing. -/
inductive Lexer.TagFault : Lexer → ParseError → Prop
  | lex {l l₁ l' : Lexer} {escaped : Bool} {opened : Position} {inner : List Lexeme}
      {e : LexError} :
      (∀ lexeme ∈ inner, lexeme.token.IsInner) →
      l.Yields (⟨.startTag escaped, opened⟩ :: inner) l₁ → l₁.next = (.error e, l') →
      TagFault l (.lex e)
  | delimiters {l l' : Lexer} {escaped : Bool} {opened closing : Position}
      {inner : List Lexeme} :
      (∀ lexeme ∈ inner, lexeme.token.IsInner) →
      l.Yields (Lexeme.tag escaped (!escaped) opened closing inner) l' →
      TagFault l (.mismatchedDelimiters opened)
  | empty {l l' : Lexer} {escaped : Bool} {opened closing : Position} :
      l.Yields (Lexeme.tag escaped escaped opened closing []) l' →
      TagFault l (.emptyExpression opened)
  | own {l l' : Lexer} {escaped : Bool} {opened closing : Position} {inner : List Lexeme}
      {e : ParseError} :
      (∀ lexeme ∈ inner, lexeme.token.IsInner) →
      l.Yields (Lexeme.tag escaped escaped opened closing inner) l' → inner ≠ [] →
      Item.ofTag escaped opened inner = .error e → TagFault l e

namespace Lexer

theorem nextItem_eq_some_iff {l l' : Lexer} {item : Item} :
    l.nextItem = (.ok (some item), l') ↔ l.Spells item l' := by
  constructor
  · intro h
    obtain ⟨s, position, hrun, rfl⟩ | ⟨escaped, opened, closing, inner, hinner, hrun, hitem⟩ :=
      yields_of_nextItem h
    · exact .text hrun
    · exact .tag hinner hrun hitem
  · intro h
    cases h with
    | text hrun =>
      cases hrun with
      | cons hnext hnil =>
        cases hnil
        exact nextItem_of_text hnext
    | tag hinner hrun hitem => rw [nextItem_of_tag hinner hrun, hitem]; rfl

theorem mode_of_spells {l l' : Lexer} {item : Item} (h : l.Spells item l')
    (hmode : l.mode = .text) : l'.mode = .text := by
  cases h with
  | text hrun =>
    cases hrun with
    | cons hnext hnil =>
      cases hnil
      rw [mode_of_next hnext, hmode]
      rfl
  | @tag _ escaped opened closing inner _ hinner hrun hitem =>
    have hrun' : l.Yields ((⟨.startTag escaped, opened⟩ :: inner) ++
        [⟨.endTag escaped, closing⟩]) l' := hrun
    obtain ⟨l₁, _, hlast⟩ := hrun'.split
    cases hlast with
    | cons hnext hnil =>
      cases hnil
      rw [mode_of_next hnext]
      rfl

/-- A tag that cannot be read is at fault. -/
theorem tagFault_of_nextItem {l l' : Lexer} {e : ParseError} (hmode : l.mode = .text)
    (h : l.nextItem = (.error e, l')) : l.TagFault e := by
  obtain hnext | ⟨⟨token, opened⟩, l₁, hnext, hlexeme⟩ := next_of_mode_text hmode
  · simp [nextItem, hnext] at h
  · obtain ⟨s, rfl, -⟩ | ⟨escaped, rfl, hmode₁⟩ := hlexeme
    · simp [nextItem_of_text hnext] at h
    · -- The tag goes on to its first end marker, or to an error before one.
      obtain ⟨inner, hinner, ⟨closed, closing, l₂, hrun, -⟩ | ⟨e', l₂, l₃, hrun, herror⟩⟩ :=
        exists_inner_of_mode_tag hmode₁
      · have htag : l.Yields (Lexeme.tag escaped closed opened closing inner) l₂ :=
          .cons hnext hrun
        by_cases hclosed : closed = escaped
        · subst hclosed
          rw [nextItem_of_tag hinner htag] at h
          cases hitem : Item.ofTag closed opened inner with
          | ok item => simp [hitem, Except.map] at h
          | error e' =>
            have he : e' = e := by simpa [hitem, Except.map] using (Prod.mk.inj h).1
            subst he
            cases inner with
            | nil =>
              cases hitem
              exact .empty htag
            | cons head extra => exact .own hinner htag (List.cons_ne_nil _ _) hitem
        · have hother : closed = !escaped := by
            cases closed <;> cases escaped <;> simp_all
          subst hother
          have hlexemes := tagLexemes_of_yields escaped opened hinner hrun
          rw [if_neg hclosed] at hlexemes
          simp only [nextItem, hnext, hlexemes, Prod.mk.injEq] at h
          cases h.1
          exact .delimiters hinner htag
      · have hlexemes := tagLexemes_of_error escaped opened hinner hrun herror
        simp only [nextItem, hnext, hlexemes, Prod.mk.injEq] at h
        cases h.1
        exact .lex hinner (.cons hnext hrun) herror

theorem exists_nextItem_of_tagFault {l : Lexer} {e : ParseError} (h : l.TagFault e) :
    ∃ l', l.nextItem = (.error e, l') := by
  cases h with
  | @lex _ l' escaped opened inner e hinner hrun herror =>
    cases hrun with
    | cons hnext hrest =>
      have hlexemes := tagLexemes_of_error escaped opened hinner hrest herror
      exact ⟨l', by simp only [nextItem, hnext, hlexemes]⟩
  | @delimiters l' escaped opened closing inner hinner hrun =>
    cases hrun with
    | cons hnext hrest =>
      have hlexemes := tagLexemes_of_yields escaped opened hinner hrest
      rw [if_neg (by cases escaped <;> decide)] at hlexemes
      exact ⟨l', by simp only [nextItem, hnext, hlexemes]⟩
  | empty hrun => exact ⟨_, nextItem_of_tag (by simp) hrun⟩
  | @own l' _ _ _ _ _ hinner hrun _ hitem =>
    refine ⟨l', ?_⟩
    rw [nextItem_of_tag hinner hrun, hitem]
    rfl

end Lexer

-- ════════════════════════════════════════════════════════════════════════
-- Tags among open blocks
-- ════════════════════════════════════════════════════════════════════════

/-- An open block: its name, the place of its opener, and whether its other branch has begun. -/
structure OpenBlock where
  name : String
  opened : Position
  hasElse : Bool

/-- An item that fits the open blocks, of which there may be `limit`, and the blocks behind it. -/
inductive Passes (limit : Nat) : List OpenBlock → Item → List OpenBlock → Prop
  | node {blocks : List OpenBlock} (n : Node) : Passes limit blocks (.node n) blocks
  | comment {blocks : List OpenBlock} : Passes limit blocks .comment blocks
  | opener {blocks : List OpenBlock} {kind : BlockKind} {name : String} {position : Position} :
      blocks.length < limit →
      Passes limit blocks (.opener kind name position) (⟨name, position, false⟩ :: blocks)
  | otherwise {blocks : List OpenBlock} {name : String} {opened position : Position} :
      Passes limit (⟨name, opened, false⟩ :: blocks) (.otherwise position)
        (⟨name, opened, true⟩ :: blocks)
  | closer {blocks : List OpenBlock} {name : String} {opened position : Position}
      {hasElse : Bool} :
      Passes limit (⟨name, opened, hasElse⟩ :: blocks) (.closer name position) blocks

/-- An item that does not fit the open blocks, and its fault. -/
inductive Offends (limit : Nat) : List OpenBlock → Item → ParseError → Prop
  | tooDeep {blocks : List OpenBlock} {kind : BlockKind} {name : String} {position : Position} :
      blocks.length = limit →
      Offends limit blocks (.opener kind name position) (.nestingTooDeep name position limit)
  | strayElse {position : Position} :
      Offends limit [] (.otherwise position) (.strayElse position)
  | duplicateElse {blocks : List OpenBlock} {name : String} {opened position : Position} :
      Offends limit (⟨name, opened, true⟩ :: blocks) (.otherwise position)
        (.duplicateElse position)
  | strayClose {name : String} {position : Position} :
      Offends limit [] (.closer name position) (.strayClose name position)
  | mismatched {blocks : List OpenBlock} {name closed : String} {opened position : Position}
      {hasElse : Bool} :
      name ≠ closed →
      Offends limit (⟨name, opened, hasElse⟩ :: blocks) (.closer closed position)
        (.mismatchedBlock name closed opened position)

/-- The fault at which a scan stops that has come to a place with blocks open: the first tag that is
at fault by itself or does not fit the open blocks, or the innermost block at the end. -/
inductive FirstFault (limit : Nat) : List OpenBlock → Lexer → ParseError → Prop
  | pass {blocks blocks' : List OpenBlock} {l l' : Lexer} {item : Item} {e : ParseError} :
      l.Spells item l' → Passes limit blocks item blocks' → FirstFault limit blocks' l' e →
      FirstFault limit blocks l e
  | tag {blocks : List OpenBlock} {l : Lexer} {e : ParseError} :
      l.TagFault e → FirstFault limit blocks l e
  | item {blocks : List OpenBlock} {l l' : Lexer} {item : Item} {e : ParseError} :
      l.Spells item l' → Offends limit blocks item e → FirstFault limit blocks l e
  | unclosed {blocks : List OpenBlock} {l : Lexer} {name : String} {opened : Position}
      {hasElse : Bool} :
      l.next = (.ok none, l) →
      FirstFault limit (⟨name, opened, hasElse⟩ :: blocks) l (.unclosedBlock name opened)

/-- What the scan keeps of a frame. -/
def Frame.openBlock (frame : Frame) : OpenBlock :=
  ⟨frame.name, frame.opened, frame.consequent?.isSome⟩

/-- The blocks that are open in an outline. -/
def Outline.blocks (outline : Outline) : List OpenBlock :=
  outline.frames.map Frame.openBlock

theorem Outline.length_blocks (outline : Outline) :
    outline.blocks.length = outline.frames.length :=
  List.length_map _

/-- An item that an outline takes fits its open blocks. -/
theorem passes_of_add {limit : Nat} {outline outline' : Outline} {item : Item}
    (h : outline.add limit item = .ok outline') :
    Passes limit outline.blocks item outline'.blocks := by
  cases Outline.adds_of_add h with
  | node frames nodes n => exact .node n
  | comment => exact .comment
  | opener nodes kind name position hlimit =>
    refine .opener ?_
    rw [Outline.length_blocks]
    exact hlimit
  | otherwise frames nodes position hnone =>
    simp only [Outline.blocks, List.map_cons, Frame.openBlock, hnone]
    exact .otherwise
  | closer frame frames nodes position => exact .closer

/-- An item that an outline refuses does not fit its open blocks. -/
theorem offends_of_add {limit : Nat} {outline : Outline} {item : Item} {e : ParseError}
    (hroom : outline.frames.length ≤ limit) (h : outline.add limit item = .error e) :
    Offends limit outline.blocks item e := by
  obtain ⟨frames, nodes⟩ := outline
  cases item with
  | node n => cases h
  | comment => cases h
  | opener kind name position =>
    simp only [Outline.add] at h
    split at h
    · next hlimit =>
      cases h
      refine .tooDeep ?_
      rw [Outline.length_blocks]
      exact Nat.le_antisymm hroom hlimit
    · simp at h
  | otherwise position =>
    simp only [Outline.add] at h
    split at h
    · cases h
      exact .strayElse
    · split at h
      · next hsome =>
        cases h
        simp only [Outline.blocks, List.map_cons, Frame.openBlock, hsome]
        exact .duplicateElse
      · simp at h
  | closer name position =>
    simp only [Outline.add] at h
    split at h
    · cases h
      exact .strayClose
    · split at h
      · simp at h
      · next hname =>
        cases h
        exact .mismatched hname

theorem exists_add_of_passes {limit : Nat} {outline : Outline} {blocks : List OpenBlock}
    {item : Item} (h : Passes limit outline.blocks item blocks) :
    ∃ outline', outline.add limit item = .ok outline' ∧ outline'.blocks = blocks := by
  obtain ⟨frames, nodes⟩ := outline
  generalize hblocks : Outline.blocks ⟨frames, nodes⟩ = before at h
  cases h with
  | node n => exact ⟨_, rfl, hblocks⟩
  | comment => exact ⟨_, rfl, hblocks⟩
  | @opener _ kind name position hlimit =>
    rw [← hblocks, Outline.length_blocks] at hlimit
    refine ⟨_, Outline.add_of_adds (.opener nodes kind name position hlimit), ?_⟩
    rw [← hblocks]
    rfl
  | @otherwise _ name opened position =>
    obtain ⟨frame, frames, rfl, hframe, rfl⟩ := List.map_eq_cons_iff.1 hblocks
    simp only [Frame.openBlock, OpenBlock.mk.injEq, Option.isSome_eq_false_iff,
      Option.isNone_iff_eq_none] at hframe
    obtain ⟨rfl, rfl, hnone⟩ := hframe
    exact ⟨_, Outline.add_of_adds (.otherwise frames nodes position hnone), rfl⟩
  | @closer _ name opened position hasElse =>
    obtain ⟨frame, frames, rfl, hframe, rfl⟩ := List.map_eq_cons_iff.1 hblocks
    cases hframe
    exact ⟨_, Outline.add_of_adds (.closer frame frames nodes position), rfl⟩

theorem add_of_offends {limit : Nat} {outline : Outline} {item : Item} {e : ParseError}
    (h : Offends limit outline.blocks item e) : outline.add limit item = .error e := by
  generalize hblocks : outline.blocks = blocks at h
  cases h with
  | tooDeep hlimit =>
    rw [← hblocks, Outline.length_blocks] at hlimit
    simp only [Outline.add]
    rw [if_pos (Nat.le_of_eq hlimit.symm)]
  | strayElse => simp only [Outline.add, List.map_eq_nil_iff.1 hblocks]
  | duplicateElse =>
    obtain ⟨frame, frames, hframes, hframe, rfl⟩ := List.map_eq_cons_iff.1 hblocks
    simp only [Frame.openBlock, OpenBlock.mk.injEq, Option.isSome_iff_exists] at hframe
    obtain ⟨rfl, rfl, consequent, hsome⟩ := hframe
    simp only [Outline.add, hframes, hsome]
  | strayClose => simp only [Outline.add, List.map_eq_nil_iff.1 hblocks]
  | mismatched hname =>
    obtain ⟨frame, frames, hframes, hframe, rfl⟩ := List.map_eq_cons_iff.1 hblocks
    cases hframe
    simp only [Outline.add, hframes]
    rw [if_neg hname]

-- ════════════════════════════════════════════════════════════════════════
-- Runs
-- ════════════════════════════════════════════════════════════════════════

/-- An item that is taken leaves at most as many blocks open as the limit allows. -/
theorem Passes.length_le {limit : Nat} {blocks blocks' : List OpenBlock} {item : Item}
    (h : Passes limit blocks item blocks') (hroom : blocks.length ≤ limit) :
    blocks'.length ≤ limit := by
  cases h with
  | node | comment => exact hroom
  | opener hlimit => exact hlimit
  | otherwise => exact hroom
  | closer => exact Nat.le_of_succ_le hroom

/-- A run that fails stops at the first fault. -/
theorem firstFault_of_assemble {limit : Nat} {outline : Outline} {l l' : Lexer} {e : ParseError}
    (hroom : outline.blocks.length ≤ limit) (hmode : l.mode = .text)
    (h : Parser.assemble limit outline l = (.error e, l')) :
    FirstFault limit outline.blocks l e := by
  -- Along the run no more blocks are open than the limit allows, and no tag is.
  fun_induction Parser.assemble limit outline l with
  | case1 outline l e' l₁ hitem =>
    cases h
    exact .tag (Lexer.tagFault_of_nextItem hmode hitem)
  | case2 outline l l₁ hitem =>
    simp only [Prod.mk.injEq] at h
    obtain ⟨hfinish, -⟩ := h
    obtain ⟨hend, -⟩ := Lexer.next_of_nextItem_eq_none hitem
    unfold Outline.finish at hfinish
    split at hfinish
    · simp at hfinish
    · next frame frames hframes =>
      cases hfinish
      rw [Outline.blocks, hframes, List.map_cons]
      exact .unclosed hend
  | case3 outline l item l₁ hitem e' hadd =>
    cases h
    rw [Outline.length_blocks] at hroom
    exact .item (Lexer.nextItem_eq_some_iff.1 hitem) (offends_of_add hroom hadd)
  | case4 outline l item l₁ hitem outline₁ hadd ih =>
    have hspells := Lexer.nextItem_eq_some_iff.1 hitem
    have hpasses := passes_of_add hadd
    exact .pass hspells hpasses
      (ih (hpasses.length_le hroom) (Lexer.mode_of_spells hspells hmode) h)

theorem assemble_of_firstFault {limit : Nat} {blocks : List OpenBlock} {l : Lexer}
    {e : ParseError} (h : FirstFault limit blocks l e) {outline : Outline}
    (hblocks : outline.blocks = blocks) : (Parser.assemble limit outline l).1 = .error e := by
  induction h generalizing outline with
  | pass hspells hpasses _ ih =>
    subst hblocks
    obtain ⟨outline', hadd, hblocks'⟩ := exists_add_of_passes hpasses
    rw [Parser.assemble_eq, Lexer.nextItem_eq_some_iff.2 hspells]
    simp only [hadd]
    exact ih hblocks'
  | tag hfault =>
    obtain ⟨l', hitem⟩ := Lexer.exists_nextItem_of_tagFault hfault
    rw [Parser.assemble_eq, hitem]
  | item hspells hoffends =>
    subst hblocks
    rw [Parser.assemble_eq, Lexer.nextItem_eq_some_iff.2 hspells]
    simp only [add_of_offends hoffends]
  | unclosed hend =>
    obtain ⟨frame, frames, hframes, hframe, rfl⟩ := List.map_eq_cons_iff.1 hblocks
    cases hframe
    rw [Parser.assemble_eq]
    simp only [Lexer.nextItem, hend, Outline.finish, hframes]

/-- The recursive parser fails exactly where a scan from left to right with a stack of open blocks
comes to a fault, with the fault that the scan comes to first, and succeeds where it comes to none;
the parser that keeps the stack itself gives the same. -/
theorem descend_error_iff_firstFault (limit : Nat) (source : String) :
    (∀ e, (Parser.ofSource source limit).descend.1 = .error e ↔
      FirstFault limit [] (.ofSource source) e) ∧
    ((∃ nodes, (Parser.ofSource source limit).descend.1 = .ok nodes) ↔
      ∀ e, ¬ FirstFault limit [] (.ofSource source) e) ∧
    (Parser.ofSource source limit).parse = (Parser.ofSource source limit).descend := by
  have hfault : ∀ e, (Parser.ofSource source limit).descend.1 = .error e ↔
      FirstFault limit [] (.ofSource source) e := by
    intro e
    rw [← Parser.parse_eq_descend]
    constructor
    · intro h
      have hparse : Parser.assemble limit .empty (.ofSource source) =
          (.error e, (Parser.assemble limit .empty (.ofSource source)).2) := Prod.ext h rfl
      exact firstFault_of_assemble (Nat.zero_le limit) rfl hparse
    · intro h
      exact assemble_of_firstFault h rfl
  refine ⟨hfault, ⟨?_, ?_⟩, Parser.parse_eq_descend _⟩
  · rintro ⟨nodes, hnodes⟩ e he
    have herror := (hfault e).2 he
    rw [hnodes] at herror
    cases herror
  · intro hnone
    cases hresult : (Parser.ofSource source limit).descend.1 with
    | ok nodes => exact ⟨nodes, rfl⟩
    | error e => exact absurd ((hfault e).1 hresult) (hnone e)

end TextTemplate

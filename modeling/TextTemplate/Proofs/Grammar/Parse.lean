import TextTemplate.Parser
import TextTemplate.Proofs.Grammar.Tag
import TextTemplate.Proofs.Item

/-!
# The parser and the grammar

The parser accepts exactly the sources whose tokens the grammar derives, within the limit to the
nesting of blocks, and gives the tree that they derive, which is the only one.

For completeness a derivation is followed along a run: whatever has been read before it, it adds its
own nodes to the outline. For soundness the outline is read the other way: `Outline.Covers` says
which tokens an outline stands for while blocks are still open.

## Main definitions

- `Opened` — the tokens up to the last beginning of an open branch
- `Outline.Covers` — the tokens that an outline has taken
-/

namespace TextTemplate

namespace Grammar

-- ════════════════════════════════════════════════════════════════════════
-- Completeness
-- ════════════════════════════════════════════════════════════════════════

theorem Parameter.isInner {token : Token} {param : Param} (h : Parameter token param) :
    token.IsInner := by
  cases h <;> trivial

theorem isInner_of_parameters {tokens : List Token} {params : List Param}
    (h : List.Forall₂ Parameter tokens params) : ∀ token ∈ tokens, token.IsInner := by
  induction h with
  | nil => simp
  | cons hparam _ ih => exact List.forall_mem_cons.2 ⟨hparam.isInner, ih⟩

theorem Leaf.isInner {escaped : Bool} {tokens : List Token} {node : Node}
    (h : Leaf escaped tokens node) : ∀ token ∈ tokens, token.IsInner := by
  cases h with
  | partialWith _ hparam =>
    exact List.forall_mem_cons.2 ⟨trivial, isInner_of_parameters (.cons hparam .nil)⟩
  | call _ _ _ hparams => exact List.forall_mem_cons.2 ⟨trivial, isInner_of_parameters hparams⟩
  | _ => exact List.forall_mem_singleton.2 trivial

theorem Opener.isInner {tokens : List Token} {kind : BlockKind} {name : String}
    (h : Opener tokens kind name) : ∀ token ∈ tokens, token.IsInner := by
  cases h with
  | conditional hparam | negated hparam | each hparam | within hparam =>
    exact List.forall_mem_cons.2 ⟨trivial, isInner_of_parameters (.cons hparam .nil)⟩
  | helper _ _ _ hparams => exact List.forall_mem_cons.2 ⟨trivial, isInner_of_parameters hparams⟩
  | _ => exact List.forall_mem_singleton.2 trivial

theorem exists_tag_of_map {escaped : Bool} {inner tokens : List Token} {lexemes : List Lexeme}
    (h : lexemes.map Lexeme.token = tag escaped inner ++ tokens) :
    ∃ opened closing between behind,
      lexemes = Lexeme.tag escaped escaped opened closing between ++ behind ∧
      between.map Lexeme.token = inner ∧ behind.map Lexeme.token = tokens := by
  obtain ⟨first, behind, rfl, hfirst, hbehind⟩ := List.map_eq_append_iff.1 h
  obtain ⟨start, more, rfl, hstart, hmore⟩ := List.map_eq_cons_iff.1 hfirst
  obtain ⟨between, last, rfl, hbetween, hlast⟩ := List.map_eq_append_iff.1 hmore
  obtain ⟨stop, rfl, hstop⟩ := List.map_eq_singleton_iff.1 hlast
  obtain ⟨_, opened⟩ := start
  obtain ⟨_, closing⟩ := stop
  cases hstart
  cases hstop
  exact ⟨opened, closing, between, behind, rfl, hbetween, hbehind⟩

theorem assemble_of_tag {limit : Nat} {outline outline' : Outline} {l l' : Lexer}
    {escaped : Bool} {opened closing : Position} {between : List Lexeme} {item : Item}
    (hinner : ∀ token ∈ between.map Lexeme.token, token.IsInner)
    (hrun : l.Yields (Lexeme.tag escaped escaped opened closing between) l')
    (hitem : Item.ofTag escaped opened between = .ok item)
    (hadd : outline.add limit item = .ok outline') :
    Parser.assemble limit outline l = Parser.assemble limit outline' l' := by
  have hnext := Lexer.nextItem_of_tag
    (fun lexeme hmem => hinner _ (List.mem_map_of_mem hmem)) hrun
  rw [hitem] at hnext
  rw [Parser.assemble_eq, hnext]
  simp only [Except.map, hadd]

/-- The tag of an opener opens a block, where the limit leaves room for it. -/
theorem assemble_of_opener {limit : Nat} {frames : List Frame} (before : List Node)
    {l l' : Lexer} {escaped : Bool} {opened closing : Position} {between : List Lexeme}
    {kind : BlockKind} {name : String} (hopener : Opener (between.map Lexeme.token) kind name)
    (hrun : l.Yields (Lexeme.tag escaped escaped opened closing between) l')
    (hroom : frames.length < limit) :
    ∃ position, Parser.assemble limit ⟨frames, before⟩ l =
      Parser.assemble limit ⟨⟨kind, name, position, before, none⟩ :: frames, []⟩ l' := by
  obtain ⟨position, hitem⟩ := exists_ofTag_of_opener escaped opened hopener
  have hadd := Outline.add_of_adds (.opener before kind name position hroom)
  exact ⟨position, assemble_of_tag hopener.isInner hrun hitem hadd⟩

/-- A lone `else` or hat begins the other branch of the innermost block. -/
theorem assemble_of_otherwise {limit : Nat} {frame : Frame} {frames : List Frame}
    {nodes : List Node} {l l' : Lexer} {escaped : Bool} {opened closing : Position}
    {between : List Lexeme} {word : String} (hword : word = "else" ∨ word = "^")
    (hbetween : between.map Lexeme.token = [.word word])
    (hrun : l.Yields (Lexeme.tag escaped escaped opened closing between) l')
    (hnone : frame.consequent? = none) :
    Parser.assemble limit ⟨frame :: frames, nodes⟩ l =
      Parser.assemble limit
        ⟨{ frame with consequent? := some nodes.reverse } :: frames, []⟩ l' := by
  obtain ⟨position, hitem⟩ := exists_ofTag_of_otherwise escaped opened hword hbetween
  refine assemble_of_tag ?_ hrun hitem (Outline.add_of_adds (.otherwise frames nodes position hnone))
  rw [hbetween]
  exact List.forall_mem_singleton.2 trivial

theorem assemble_of_closer {limit : Nat} {frame : Frame} {frames : List Frame}
    {nodes : List Node} {l l' : Lexer} {escaped : Bool} {opened closing : Position}
    {between : List Lexeme} (hbetween : between.map Lexeme.token = [.word ("/" ++ frame.name)])
    (hrun : l.Yields (Lexeme.tag escaped escaped opened closing between) l') :
    Parser.assemble limit ⟨frame :: frames, nodes⟩ l =
      Parser.assemble limit ⟨frames, frame.close nodes :: frame.before⟩ l' := by
  obtain ⟨position, hitem⟩ := exists_ofTag_of_closer escaped opened hbetween
  refine assemble_of_tag ?_ hrun hitem (Outline.add_of_adds (.closer frame frames nodes position))
  rw [hbetween]
  exact List.forall_mem_singleton.2 trivial

/-- Tokens are assembled to nodes: wherever they are read, and whatever blocks are open there, the
nodes are added to the outline, where the limit leaves room for their blocks. -/
def Assembles (limit : Nat) (tokens : List Token) (nodes : List Node) : Prop :=
  ∀ {lexemes : List Lexeme} {l l' : Lexer} {frames : List Frame} {before : List Node},
    lexemes.map Lexeme.token = tokens → l.Yields lexemes l' →
    frames.length + Node.nestingOfAll nodes ≤ limit →
    Parser.assemble limit ⟨frames, before⟩ l =
      Parser.assemble limit ⟨frames, nodes.reverse ++ before⟩ l'

namespace Assembles

variable {limit : Nat} {tokens : List Token} {nodes : List Node}

theorem nil : Assembles limit [] [] := by
  intro lexemes l l' frames before hmap hrun _
  obtain rfl := List.map_eq_nil_iff.1 hmap
  cases hrun
  rfl

theorem text (s : String) (h : Assembles limit tokens nodes) :
    Assembles limit (.text s :: tokens) (.text s :: nodes) := by
  intro lexemes l l' frames before hmap hrun hlimit
  obtain ⟨⟨_, position⟩, behind, rfl, htoken, hbehind⟩ := List.map_eq_cons_iff.1 hmap
  cases htoken
  cases hrun with
  | cons hnext hrest =>
    have hroom : frames.length + Node.nestingOfAll nodes ≤ limit := by
      simp only [Node.nestingOfAll] at hlimit
      omega
    rw [Parser.assemble_eq, Lexer.nextItem_of_text hnext]
    simp only [Outline.add]
    rw [h hbehind hrest hroom]
    simp

theorem comment (escaped : Bool) (s : String) (h : Assembles limit tokens nodes) :
    Assembles limit (tag escaped [.comment s] ++ tokens) nodes := by
  intro lexemes l l' frames before hmap hrun hlimit
  obtain ⟨opened, closing, between, behind, rfl, hbetween, hbehind⟩ := exists_tag_of_map hmap
  obtain ⟨l₁, htag, hrest⟩ := hrun.split
  obtain ⟨head, rfl, hhead⟩ := List.map_eq_singleton_iff.1 hbetween
  have hitem : Item.ofTag escaped opened [head] = .ok .comment := by
    simp only [Item.ofTag, hhead, Item.alone]
  have hinner : ∀ token ∈ [head].map Lexeme.token, token.IsInner := by
    rw [hbetween]
    exact List.forall_mem_singleton.2 trivial
  rw [assemble_of_tag hinner htag hitem rfl]
  exact h hbehind hrest hlimit

theorem leaf {escaped : Bool} {inner : List Token} {node : Node} (hleaf : Leaf escaped inner node)
    (h : Assembles limit tokens nodes) :
    Assembles limit (tag escaped inner ++ tokens) (node :: nodes) := by
  intro lexemes l l' frames before hmap hrun hlimit
  obtain ⟨opened, closing, between, behind, rfl, rfl, hbehind⟩ := exists_tag_of_map hmap
  obtain ⟨l₁, htag, hrest⟩ := hrun.split
  have hroom : frames.length + Node.nestingOfAll nodes ≤ limit := by
    simp only [Node.nestingOfAll] at hlimit
    omega
  rw [assemble_of_tag hleaf.isInner htag (ofTag_of_leaf hleaf) rfl, h hbehind hrest hroom]
  simp

variable {inner body body' : List Token} {kind : BlockKind} {name : String}
  {consequent alternate : List Node}

/-- The body of a block is assembled inside one block more. -/
theorem block (e₁ e₂ : Bool) (hopener : Opener inner kind name)
    (hbody : Assembles limit body consequent) (h : Assembles limit tokens nodes) :
    Assembles limit (tag e₁ inner ++ (body ++ (tag e₂ [.word ("/" ++ name)] ++ tokens)))
      (.block kind name consequent none :: nodes) := by
  intro lexemes l l' frames before hmap hrun hlimit
  obtain ⟨_, _, between, more, rfl, rfl, hmore⟩ := exists_tag_of_map hmap
  obtain ⟨inside, more', rfl, hinside, hmore'⟩ := List.map_eq_append_iff.1 hmore
  obtain ⟨_, _, between', behind, rfl, hclose, hbehind⟩ := exists_tag_of_map hmore'
  obtain ⟨l₁, htag, hrun₁⟩ := hrun.split
  obtain ⟨l₂, hrun_body, hrun₂⟩ := hrun₁.split
  obtain ⟨l₃, htag', hrest⟩ := hrun₂.split
  simp only [Node.nestingOfAll, Node.nesting, Node.nestingOfBranch] at hlimit
  have hroom : frames.length < limit := by omega
  obtain ⟨position, hopen⟩ := assemble_of_opener before hopener htag hroom
  have hroom₁ : (⟨kind, name, position, before, none⟩ :: frames : List Frame).length +
      Node.nestingOfAll consequent ≤ limit := by
    simp only [List.length_cons]
    omega
  have hroom₂ : frames.length + Node.nestingOfAll nodes ≤ limit := by omega
  rw [hopen, hbody hinside hrun_body hroom₁, assemble_of_closer hclose htag',
    h hbehind hrest hroom₂]
  simp [Frame.close]

theorem blockElse (e₁ e₂ e₃ : Bool) {otherwise : String} (hopener : Opener inner kind name)
    (hotherwise : otherwise = "else" ∨ otherwise = "^") (hbody : Assembles limit body consequent)
    (hbody' : Assembles limit body' alternate) (h : Assembles limit tokens nodes) :
    Assembles limit
      (tag e₁ inner ++ (body ++ (tag e₂ [.word otherwise] ++
        (body' ++ (tag e₃ [.word ("/" ++ name)] ++ tokens)))))
      (.block kind name consequent (some alternate) :: nodes) := by
  intro lexemes l l' frames before hmap hrun hlimit
  obtain ⟨_, _, between, more, rfl, rfl, hmore⟩ := exists_tag_of_map hmap
  obtain ⟨inside, more₁, rfl, hinside, hmore₁⟩ := List.map_eq_append_iff.1 hmore
  obtain ⟨_, _, between', more₂, rfl, helse, hmore₂⟩ := exists_tag_of_map hmore₁
  obtain ⟨inside', more₃, rfl, hinside', hmore₃⟩ := List.map_eq_append_iff.1 hmore₂
  obtain ⟨_, _, between'', behind, rfl, hclose, hbehind⟩ := exists_tag_of_map hmore₃
  obtain ⟨l₁, htag, hrun₁⟩ := hrun.split
  obtain ⟨l₂, hrun_body, hrun₂⟩ := hrun₁.split
  obtain ⟨l₃, htag', hrun₃⟩ := hrun₂.split
  obtain ⟨l₄, hrun_body', hrun₄⟩ := hrun₃.split
  obtain ⟨l₅, htag'', hrest⟩ := hrun₄.split
  simp only [Node.nestingOfAll, Node.nesting, Node.nestingOfBranch] at hlimit
  have hroom : frames.length < limit := by omega
  obtain ⟨position, hopen⟩ := assemble_of_opener before hopener htag hroom
  have hroom₁ : (⟨kind, name, position, before, none⟩ :: frames : List Frame).length +
      Node.nestingOfAll consequent ≤ limit := by
    simp only [List.length_cons]
    omega
  have hroom₂ : (⟨kind, name, position, before, some consequent⟩ :: frames : List Frame).length +
      Node.nestingOfAll alternate ≤ limit := by
    simp only [List.length_cons]
    omega
  have hroom₃ : frames.length + Node.nestingOfAll nodes ≤ limit := by omega
  rw [hopen, hbody hinside hrun_body hroom₁, assemble_of_otherwise hotherwise helse htag' rfl,
    List.append_nil, List.reverse_reverse, hbody' hinside' hrun_body' hroom₂,
    assemble_of_closer hclose htag'', h hbehind hrest hroom₃]
  simp [Frame.close]

end Assembles

/-- What the grammar derives is assembled. -/
theorem Derives.assembles {tokens : List Token} {nodes : List Node} (h : Derives tokens nodes)
    (limit : Nat) : Assembles limit tokens nodes := by
  -- The outline is arbitrary in `Assembles`, so that the bodies of blocks are covered.
  induction h with
  | nil => exact Assembles.nil
  | text s _ ih => exact Assembles.text s ih
  | comment escaped s _ ih => exact Assembles.comment escaped s ih
  | leaf hleaf _ ih => exact Assembles.leaf hleaf ih
  | block e₁ e₂ hopener _ _ ihbody ih => exact Assembles.block e₁ e₂ hopener ihbody ih
  | blockElse e₁ e₂ e₃ hopener _ hotherwise _ _ ihbody ihbody' ih =>
    exact Assembles.blockElse e₁ e₂ e₃ hopener hotherwise ihbody ihbody' ih

end Grammar

-- ════════════════════════════════════════════════════════════════════════
-- Soundness
-- ════════════════════════════════════════════════════════════════════════

open Grammar

/-- The tokens up to the last place where one of the open blocks began a branch. -/
inductive Opened (limit : Nat) : List Token → List Frame → Prop
  | nil : Opened limit [] []
  | main {tokens body inner : List Token} {frames : List Frame} {nodes : List Node}
      {escaped : Bool} {kind : BlockKind} {name : String} (position : Position) :
      Opened limit tokens frames → Derives body nodes.reverse →
      frames.length + Node.nestingOfAll nodes ≤ limit → frames.length < limit →
      Opener inner kind name →
      Opened limit (tokens ++ body ++ tag escaped inner)
        (⟨kind, name, position, nodes, none⟩ :: frames)
  | other {tokens body : List Token} {frame : Frame} {frames : List Frame}
      {consequent : List Node} {escaped : Bool} {word : String} :
      Opened limit tokens (frame :: frames) → frame.consequent? = none →
      Derives body consequent → (frame :: frames).length + Node.nestingOfAll consequent ≤ limit →
      word = "else" ∨ word = "^" →
      Opened limit (tokens ++ body ++ tag escaped [.word word])
        ({ frame with consequent? := some consequent } :: frames)

/-- The tokens that an outline has taken: those that began its open branches, and behind them the
tokens of the nodes of the innermost. -/
def Outline.Covers (limit : Nat) (tokens : List Token) (outline : Outline) : Prop :=
  ∃ opened body, tokens = opened ++ body ∧ Opened limit opened outline.frames ∧
    Derives body outline.nodes.reverse ∧
    outline.frames.length + Node.nestingOfAll outline.nodes ≤ limit

theorem covers_empty (limit : Nat) : Outline.empty.Covers limit [] := by
  refine ⟨[], [], rfl, .nil, .nil, ?_⟩
  simp [Outline.empty, Node.nestingOfAll]

theorem Outline.Covers.append {limit : Nat} {tokens more : List Token} {frames : List Frame}
    {nodes nodes' : List Node} (h : Outline.Covers limit tokens ⟨frames, nodes⟩)
    (hmore : Derives more nodes')
    (hlimit : frames.length + Node.nestingOfAll nodes' ≤ limit) :
    Outline.Covers limit (tokens ++ more) ⟨frames, nodes'.reverse ++ nodes⟩ := by
  obtain ⟨opened, body, rfl, hopened, hbody, hnesting⟩ := h
  refine ⟨opened, body ++ more, List.append_assoc .., hopened, ?_, ?_⟩
  · rw [List.reverse_append, List.reverse_reverse]
    exact hbody.append hmore
  · simp only [Node.nestingOfAll_append, Node.nestingOfAll_reverse] at hnesting ⊢
    omega

/-- A closer makes a block of the innermost frame, behind what was read before it. -/
theorem covers_close {limit : Nat} {tokens : List Token} {frame : Frame} {frames : List Frame}
    {nodes : List Node} (h : Outline.Covers limit tokens ⟨frame :: frames, nodes⟩)
    (escaped : Bool) :
    Outline.Covers limit (tokens ++ tag escaped [.word ("/" ++ frame.name)])
      ⟨frames, frame.close nodes :: frame.before⟩ := by
  obtain ⟨opened, body, rfl, hopened, hbody, hnesting⟩ := h
  simp only [List.length_cons] at hnesting
  cases hopened with
  | @main tokens before inner _ nodes' e kind name position hbelow hbefore hroom hlimit hopener =>
    have hblock := Derives.block e escaped hopener hbody .nil
    have hcovers : Outline.Covers limit (tokens ++ before) ⟨frames, nodes'⟩ :=
      ⟨tokens, before, rfl, hbelow, hbefore, hroom⟩
    have hadded := hcovers.append hblock (by
      simp only [Node.nestingOfAll, Node.nesting, Node.nestingOfBranch,
        Node.nestingOfAll_reverse]
      omega)
    simpa [Frame.close] using hadded
  | @other opened' inside frame' _ consequent e word hbelow hnone hinside hroom hword =>
    -- A branch that is the other one stands behind the main one of the same frame.
    cases hbelow with
    | @main tokens before inner _ nodes' e' kind name position hbelow hbefore hroom' hlimit
        hopener =>
      have hblock := Derives.blockElse e' e escaped hopener hinside hword hbody .nil
      have hcovers : Outline.Covers limit (tokens ++ before) ⟨frames, nodes'⟩ :=
        ⟨tokens, before, rfl, hbelow, hbefore, hroom'⟩
      have hadded := hcovers.append hblock (by
        simp only [Node.nestingOfAll, Node.nesting, Node.nestingOfBranch,
          Node.nestingOfAll_reverse, List.length_cons] at hroom ⊢
        omega)
      simpa [Frame.close] using hadded
    | other => simp at hnone

/-- An item that is added has its tokens taken. -/
theorem covers_add {limit : Nat} {tokens inner : List Token} {outline outline' : Outline}
    {item : Item} {escaped : Bool} (h : outline.Covers limit tokens)
    (hitem : item.SpelledBy escaped inner) (hadd : outline.add limit item = .ok outline') :
    outline'.Covers limit (tokens ++ tag escaped inner) := by
  have hroom : outline.frames.length ≤ limit := by
    obtain ⟨_, _, _, _, _, hnesting⟩ := h
    exact Nat.le_trans (Nat.le_add_right ..) hnesting
  cases Outline.adds_of_add hadd with
  | node frames nodes n =>
    have hnesting : Node.nestingOfAll [n] = 0 := by
      cases hitem <;> simp [Node.nestingOfAll, Node.nesting]
    have hleaf : Derives (tag escaped inner ++ []) [n] := .leaf hitem .nil
    have hroom' : frames.length + Node.nestingOfAll [n] ≤ limit := by
      rw [hnesting]
      exact hroom
    simpa using h.append hleaf hroom'
  | comment =>
    obtain ⟨s, rfl⟩ := hitem
    have hcomment : Derives (tag escaped [.comment s] ++ []) [] := .comment escaped s .nil
    simpa using h.append hcomment (by simpa [Node.nestingOfAll] using hroom)
  | opener nodes kind name position hlimit =>
    obtain ⟨opened, body, rfl, hopened, hbody, hnesting⟩ := h
    refine ⟨_, [], (List.append_nil _).symm,
      .main position hopened hbody hnesting hlimit hitem, .nil, ?_⟩
    simp only [List.length_cons, Node.nestingOfAll]
    omega
  | otherwise frames nodes position hnone =>
    obtain ⟨opened, body, rfl, hopened, hbody, hnesting⟩ := h
    obtain ⟨word, hword, rfl⟩ :
        ∃ word, (word = "else" ∨ word = "^") ∧ inner = [.word word] := by
      obtain rfl | rfl := hitem
      · exact ⟨_, .inl rfl, rfl⟩
      · exact ⟨_, .inr rfl, rfl⟩
    refine ⟨_, [], (List.append_nil _).symm,
      .other hopened hnone hbody (by simpa using hnesting) hword, .nil, ?_⟩
    simpa [Node.nestingOfAll] using hroom
  | closer frame frames nodes position =>
    obtain rfl : inner = [.word ("/" ++ frame.name)] := hitem
    exact covers_close h escaped

/-- What the parser accepts is derived by the tokens up to the end of the source. -/
theorem derives_of_assemble {limit : Nat} {tokens : List Token} {outline : Outline}
    {l l' : Lexer} {nodes : List Node} (h : Parser.assemble limit outline l = (.ok nodes, l'))
    (hcovers : outline.Covers limit tokens) :
    ∃ lexemes, l.Yields lexemes l' ∧ l'.next = (.ok none, l') ∧
      Derives (tokens ++ lexemes.map Lexeme.token) nodes ∧ Node.nestingOfAll nodes ≤ limit := by
  fun_induction Parser.assemble limit outline l generalizing tokens with
  | case1 => simp at h
  | case2 outline l l₁ hitem =>
    simp only [Prod.mk.injEq] at h
    obtain ⟨hfinish, rfl⟩ := h
    obtain ⟨hend, rfl⟩ := Lexer.next_of_nextItem_eq_none hitem
    obtain ⟨frames, nodes'⟩ := outline
    unfold Outline.finish at hfinish
    split at hfinish
    · next hframes =>
      cases hfinish
      cases hframes
      obtain ⟨opened, body, rfl, hopened, hbody, hnesting⟩ := hcovers
      cases hopened
      refine ⟨[], .nil _, hend, by simpa using hbody, ?_⟩
      simpa using hnesting
    · simp at hfinish
  | case3 => simp at h
  | case4 outline l item l₁ hitem outline₁ hadd ih =>
    obtain ⟨s, position, hrun, rfl⟩ | ⟨escaped, opened, closing, inner, -, hrun, hspell⟩ :=
      Lexer.yields_of_nextItem hitem
    · cases hadd
      have htext : Derives [.text s] [.text s] := .text s .nil
      have hadded := hcovers.append htext (by
        obtain ⟨_, _, _, _, _, hnesting⟩ := hcovers
        simp only [Node.nestingOfAll, Node.nesting]
        omega)
      obtain ⟨lexemes, hmore, hend, hderives, hnesting⟩ := ih h (by simpa using hadded)
      exact ⟨_, hrun.append hmore, hend, by simpa using hderives, hnesting⟩
    · have hadded := covers_add hcovers (spelledBy_of_ofTag hspell) hadd
      obtain ⟨lexemes, hmore, hend, hderives, hnesting⟩ := ih h hadded
      exact ⟨_, hrun.append hmore, hend, by simpa [Lexeme.tag, tag] using hderives, hnesting⟩

/-- What the tokens of a source derive is what the parser gives, within the limit. -/
theorem parseTemplate_of_derives {limit : Nat} {source : String} {lexemes : List Lexeme}
    {nodes : List Node} (htokens : tokenize source = .ok lexemes)
    (h : Derives (lexemes.map Lexeme.token) nodes) (hlimit : Node.nestingOfAll nodes ≤ limit) :
    parseTemplate limit source = .ok nodes := by
  obtain ⟨l', hrun, hend⟩ := Lexer.tokens_eq_ok_iff.1 htokens
  have hitem : l'.nextItem = (.ok none, l') := by simp only [Lexer.nextItem, hend]
  have hparse : Parser.assemble limit ⟨[], []⟩ (.ofSource source) =
      Parser.assemble limit ⟨[], nodes.reverse ++ []⟩ l' :=
    h.assembles limit rfl hrun (by simpa using hlimit)
  have hfinish : Parser.assemble limit ⟨[], nodes.reverse ++ []⟩ l' = (.ok nodes, l') := by
    rw [Parser.assemble_eq, hitem]
    simp [Outline.finish]
  simp only [parseTemplate, Parser.parse, Parser.ofSource, Outline.empty]
  rw [hparse, hfinish]

/-- The tokens of a source that the parser accepts derive the tree it gives, within the limit. -/
theorem derives_of_parseTemplate {limit : Nat} {source : String} {nodes : List Node}
    (h : parseTemplate limit source = .ok nodes) :
    ∃ lexemes, tokenize source = .ok lexemes ∧ Derives (lexemes.map Lexeme.token) nodes ∧
      Node.nestingOfAll nodes ≤ limit := by
  have hparse : Parser.assemble limit .empty (.ofSource source) =
      (.ok nodes, (Parser.assemble limit .empty (.ofSource source)).2) := Prod.ext h rfl
  obtain ⟨lexemes, hrun, hend, hderives, hnesting⟩ :=
    derives_of_assemble hparse (covers_empty limit)
  exact ⟨lexemes, Lexer.tokens_eq_ok_iff.2 ⟨_, hrun, hend⟩, hderives, hnesting⟩

/-- The tokens of a source derive one tree at most. -/
theorem eq_of_derives {source : String} {lexemes : List Lexeme} {nodes nodes' : List Node}
    (htokens : tokenize source = .ok lexemes) (h : Derives (lexemes.map Lexeme.token) nodes)
    (h' : Derives (lexemes.map Lexeme.token) nodes') : nodes = nodes' := by
  -- With room for the blocks of both trees the parser gives each of them.
  have hparse := parseTemplate_of_derives htokens h
    (Nat.le_max_left (Node.nestingOfAll nodes) (Node.nestingOfAll nodes'))
  have hparse' := parseTemplate_of_derives htokens h'
    (Nat.le_max_right (Node.nestingOfAll nodes) (Node.nestingOfAll nodes'))
  exact Except.ok.inj (hparse.symm.trans hparse')

/-- The parser accepts exactly the sources whose tokens the grammar derives within the limit, and
gives the tree that they derive, which is the only one. -/
theorem parseTemplate_eq_ok_iff_derives (limit : Nat) (source : String) (nodes : List Node) :
    (parseTemplate limit source = .ok nodes ↔
      ∃ lexemes, tokenize source = .ok lexemes ∧ Derives (lexemes.map Lexeme.token) nodes ∧
        Node.nestingOfAll nodes ≤ limit) ∧
    ∀ lexemes nodes', tokenize source = .ok lexemes →
      Derives (lexemes.map Lexeme.token) nodes → Derives (lexemes.map Lexeme.token) nodes' →
      nodes' = nodes := by
  refine ⟨⟨?_, ?_⟩, ?_⟩
  · exact derives_of_parseTemplate
  · rintro ⟨lexemes, htokens, hderives, hnesting⟩
    exact parseTemplate_of_derives htokens hderives hnesting
  · intro lexemes nodes' htokens h h'
    exact eq_of_derives htokens h' h

end TextTemplate

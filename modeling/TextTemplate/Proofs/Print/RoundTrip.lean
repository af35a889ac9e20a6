import TextTemplate.Proofs.Grammar.Parse
import TextTemplate.Proofs.Print.Run

/-!
# Printing and reading back

A tree that can be written is read back from its text in any style, within the limit to the nesting
of blocks. The tokens that the text is read as derive the tree, and the parser gives what they
derive.

## Main definitions

- `Style.NodeReads`, `Style.Reads` — the text of a node or template is read as tokens that derive it
- `Style.source` — the source of a template in a style
-/

namespace TextTemplate

open Grammar

namespace Style

variable (style : Style)

/-- The text of a node is read as tokens that derive it, where it can end. -/
def NodeReads (n : Node) : Prop :=
  ∃ tokens, Derives tokens [n] ∧ ∀ rest, rest.head? ≠ some '\x7d' →
    (n.isText = true → Boundary rest) → ReadAs (style.node n) tokens rest

/-- The text of a template is read as tokens that derive it, where a text can end. -/
def Reads (ns : List Node) : Prop :=
  ∃ tokens, Derives tokens ns ∧ ∀ rest, Boundary rest → ReadAs (style.nodes ns) tokens rest

theorem openMarker_opener (name : String) (kind : BlockKind) (rest : List Char) :
    openMarker <+: style.opener name kind ++ rest := by
  unfold opener
  split
  · exact openMarker_tag ..
  · split <;> exact openMarker_tag ..
  · exact openMarker_tag ..

/-- The text of anything but a text begins with a marker. -/
theorem openMarker_node {n : Node} (h : n.isText = false) (rest : List Char) :
    openMarker <+: style.node n ++ rest := by
  cases n with
  | text s => cases h
  | block kind name consequent alternate? =>
    rw [node, List.append_assoc]
    exact openMarker_opener style name kind _
  | _ =>
    rw [node]
    exact openMarker_tag ..

/-- A text may stand before a template that begins with none. -/
theorem boundary_nodes {ns : List Node} (h : ∀ m ∈ ns.head?, m.isText = false)
    {rest : List Char} (hrest : Boundary rest) : Boundary (style.nodes ns ++ rest) := by
  cases ns with
  | nil => exact hrest
  | cons n ns =>
    rw [nodes, List.append_assoc]
    exact .inr (openMarker_node style (h n rfl) _)

theorem head_nodes_ne {ns : List Node} (h : Node.PrintableAll ns) {rest : List Char}
    (hrest : Boundary rest) : (style.nodes ns ++ rest).head? ≠ some '\x7d' := by
  cases ns with
  | nil => exact Boundary.head_ne hrest
  | cons n ns =>
    obtain ⟨hn, -, -⟩ := h
    rw [nodes, List.append_assoc]
    cases htext : n.isText with
    | false => exact Boundary.head_ne (.inr (openMarker_node style htext _))
    | true =>
      cases n with
      | text s =>
        obtain ⟨hne, -, hhead, -⟩ := hn
        rwa [node, List.head?_append_of_ne_nil _ hne]
      | _ => cases htext

-- ════════════════════════════════════════════════════════════════════════
-- Nodes
-- ════════════════════════════════════════════════════════════════════════

theorem nodeReads_of_leaf {n : Node} {escaped : Bool} {head : List Char}
    {more : List (List Char)} {token : Token} {tokens : List Token}
    (hprint : style.node n = tag escaped head more) (hhead : token.WrittenAs head)
    (hmore : List.Forall₂ Token.WrittenAs tokens more) (hleaf : Leaf escaped (token :: tokens) n) :
    style.NodeReads n := by
  refine ⟨_, .leaf hleaf .nil, ?_⟩
  intro rest hrest _
  rw [hprint, List.append_nil]
  exact readAs_tag hhead hmore hrest

theorem nodeReads_path {p : Path} {escaped : Bool} (h : (Node.path p escaped).Printable) :
    style.NodeReads (.path p escaped) := by
  obtain ⟨hp, helse⟩ := h
  obtain ⟨hwritten, hplain⟩ := writtenAs_path style hp
  exact nodeReads_of_leaf style rfl hwritten .nil
    (.path (path_ne_word style hp (by decide) helse) hplain (read_path style hp))

theorem nodeReads_call {name : String} {arguments : List Param} {escaped : Bool}
    (h : (Node.call name arguments escaped).Printable) :
    style.NodeReads (.call name arguments escaped) := by
  obtain ⟨hname, hne, harguments⟩ := h
  obtain ⟨hwritten, hplain⟩ := writtenAs_callName hname
  obtain ⟨tokens, hparams, hmore⟩ := exists_writtenAs_params style harguments
  refine nodeReads_of_leaf style rfl hwritten hmore ?_
  refine .call (fun helse => hname.2.2 (helse ▸ List.mem_cons_self)) hplain ?_ hparams
  rintro rfl
  cases hparams
  exact hne rfl

theorem nodeReads_partialRef {name : String} {context? : Option Param}
    (h : (Node.partialRef name context?).Printable) :
    style.NodeReads (.partialRef name context?) := by
  obtain ⟨hname, hcontext⟩ := h
  have hblanks : (if style.spaced then [' '] else []).all Text.isBlank = true := by
    split <;> decide
  have hwritten := writtenAs_partialRef hname hblanks
  cases context? with
  | none => exact nodeReads_of_leaf style rfl hwritten .nil (.partialRef name)
  | some argument =>
    obtain ⟨token, hparam, hmore⟩ := exists_writtenAs_param style (hcontext argument rfl)
    exact nodeReads_of_leaf style rfl hwritten (.cons hmore .nil) (.partialWith name hparam)

/-- A word behind a mark, alone in its tag. -/
theorem readsTags_mark {mark name : String} {c : Char} (hmark : mark.toList = [c])
    (hc : isBlockMark c = true) (hname : IsWordName name) :
    ReadsTags (tag true (c :: name.toList) []) (Grammar.tag true [.word (mark ++ name)]) :=
  readsTags_tag (writtenAs_mark hmark hc hname.2) .nil

/-- A name and one argument, behind the mark that opens blocks. -/
theorem exists_readsTags_one {name : String} (hname : IsWordName name) (argument : Param)
    (hargument : argument.Printable) :
    ∃ token, Parameter token argument ∧
      ReadsTags (tag true ('#' :: name.toList) [style.param argument])
        (Grammar.tag true [.word ("#" ++ name), token]) := by
  obtain ⟨token, hparam, hwritten⟩ := exists_writtenAs_param style hargument
  exact ⟨token, hparam, readsTags_tag (writtenAs_mark rfl rfl hname.2) (.cons hwritten .nil)⟩

theorem exists_readsTags_opener {name : String} {kind : BlockKind} (hname : IsWordName name)
    (hkind : kind.Agrees name) :
    ∃ inner, Opener inner kind name ∧
      ReadsTags (style.opener name kind) (Grammar.tag true inner) := by
  cases kind with
  | conditional argument =>
    obtain ⟨rfl, hargument⟩ := hkind
    obtain ⟨token, hparam, hread⟩ := exists_readsTags_one style hname argument hargument
    exact ⟨_, .conditional hparam, hread⟩
  | negated argument =>
    -- Only a path can stand behind a hat instead of the name of the kind.
    cases argument with
    | path p =>
      obtain ⟨rfl, hp⟩ | ⟨hne, hp⟩ := hkind
      · obtain ⟨token, hparam, hread⟩ := exists_readsTags_one style hname (.path p) hp
        exact ⟨_, .negated hparam, hread⟩
      · refine ⟨_, .inverted hname.1 hp, ?_⟩
        rw [opener, if_neg hne]
        exact readsTags_mark rfl rfl hname
    | literal value =>
      obtain ⟨rfl, hvalue⟩ := hkind
      obtain ⟨token, hparam, hread⟩ := exists_readsTags_one style hname (.literal value) hvalue
      exact ⟨_, .negated hparam, hread⟩
  | each argument =>
    obtain ⟨rfl, hargument⟩ := hkind
    obtain ⟨token, hparam, hread⟩ := exists_readsTags_one style hname argument hargument
    exact ⟨_, .each hparam, hread⟩
  | within argument =>
    obtain ⟨rfl, hargument⟩ := hkind
    obtain ⟨token, hparam, hread⟩ := exists_readsTags_one style hname argument hargument
    exact ⟨_, .within hparam, hread⟩
  | implicit p =>
    obtain ⟨hother, hp⟩ := hkind
    exact ⟨_, .implicit hname.1 hother hp, readsTags_mark rfl rfl hname⟩
  | helper arguments =>
    obtain ⟨hother, hne, harguments⟩ := hkind
    obtain ⟨tokens, hparams, hmore⟩ := exists_writtenAs_params style harguments
    refine ⟨_, .helper hname.1 hother ?_ hparams,
      readsTags_tag (writtenAs_mark rfl rfl hname.2) hmore⟩
    rintro rfl
    cases hparams
    exact hne rfl

theorem exists_readsTags_otherwise :
    ∃ word, (word = "else" ∨ word = "^") ∧
      ReadsTags style.otherwise (Grammar.tag true [.word word]) := by
  unfold otherwise
  split
  · have hwritten : (Token.word "^").WrittenAs ['^'] :=
      writtenAs_word rfl (by decide) (by decide) (by decide)
    exact ⟨_, .inr rfl, readsTags_tag hwritten .nil⟩
  · have hwritten : (Token.word "else").WrittenAs ['e', 'l', 's', 'e'] :=
      writtenAs_word rfl (by decide) (by decide) (by decide)
    exact ⟨_, .inl rfl, readsTags_tag hwritten .nil⟩

/-- A block is read back where its branches are. -/
theorem nodeReads_block {kind : BlockKind} {name : String} {consequent : List Node}
    {alternate? : Option (List Node)}
    (h : (Node.block kind name consequent alternate?).Printable) (hmain : style.Reads consequent)
    (hother : ∀ ns, alternate? = some ns → style.Reads ns) :
    style.NodeReads (.block kind name consequent alternate?) := by
  obtain ⟨hname, hkind, hconsequent, halternate⟩ := h
  obtain ⟨inner, hopener, hopen⟩ := exists_readsTags_opener style hname hkind
  obtain ⟨body, hbody, hreads⟩ := hmain
  have hinside : ReadsInside (style.nodes consequent) body :=
    ⟨fun rest hrest => head_nodes_ne style hconsequent hrest, hreads⟩
  have hclose : ReadsTags (tag true ('/' :: name.toList) [])
      (Grammar.tag true [.word ("/" ++ name)]) := readsTags_mark rfl rfl hname
  cases alternate? with
  | none =>
    refine ⟨_, .block true true hopener hbody .nil, ?_⟩
    intro rest hrest _
    rw [node, branch, List.nil_append, List.append_nil]
    exact (hopen.enclose hinside hclose).reads rest hrest
  | some ns =>
    obtain ⟨body', hbody', hreads'⟩ := hother ns rfl
    obtain ⟨word, hword, hotherwise⟩ := exists_readsTags_otherwise style
    have hinside' : ReadsInside (style.nodes ns) body' :=
      ⟨fun rest hrest => head_nodes_ne style halternate hrest, hreads'⟩
    refine ⟨_, .blockElse true true true hopener hbody hword hbody' .nil, ?_⟩
    intro rest hrest _
    rw [node, branch, List.append_nil, List.append_assoc]
    exact (hopen.enclose hinside (hotherwise.enclose hinside' hclose)).reads rest hrest

mutual

theorem nodeReads : (n : Node) → n.Printable → style.NodeReads n
  | .text s, h => ⟨[.text s], .text s .nil, fun _ _ hrest => readAs_text h (hrest rfl)⟩
  | .path _ _, h => nodeReads_path style h
  | .literal value _, h =>
    nodeReads_of_leaf style rfl (writtenAs_literal style h) .nil (.literal value)
  | .call _ _ _, h => nodeReads_call style h
  | .block _ _ consequent alternate?, h =>
    nodeReads_block style h (reads consequent h.2.2.1) (reads_branch alternate? h.2.2.2)
  | .partialRef _ _, h => nodeReads_partialRef style h

/-- The text of a template is read back. -/
theorem reads : (ns : List Node) → Node.PrintableAll ns → style.Reads ns
  | [], _ => ⟨[], .nil, fun rest _ => readAs_nil rest⟩
  | n :: ns, h => by
    obtain ⟨hn, htexts, hns⟩ := h
    obtain ⟨tokens, hderives, hread⟩ := nodeReads n hn
    obtain ⟨tokens', hderives', hread'⟩ := reads ns hns
    refine ⟨tokens ++ tokens', hderives.append hderives', ?_⟩
    intro rest hrest
    exact ReadAs.append
      (hread _ (head_nodes_ne style hns hrest) fun htext =>
        boundary_nodes style (htexts htext) hrest)
      (hread' rest hrest)

@[inherit_doc reads]
theorem reads_branch : (alternate? : Option (List Node)) → Node.PrintableBranch alternate? →
    ∀ ns, alternate? = some ns → style.Reads ns
  | none, _, _, hnone => nomatch hnone
  | some ns, h, _, rfl => reads ns h

end

/-- The source of a template. -/
def source (ns : List Node) : String :=
  String.ofList (style.nodes ns)

end Style

/-- A tree that can be written is read back from its source in any style, within the limit to the
nesting of blocks. -/
theorem parseTemplate_source (style : Style) (limit : Nat) (nodes : List Node)
    (h : Node.PrintableAll nodes) (hlimit : Node.nestingOfAll nodes ≤ limit) :
    parseTemplate limit (style.source nodes) = .ok nodes := by
  obtain ⟨tokens, hderives, hread⟩ := style.reads nodes h
  obtain ⟨lexemes, p, hrun, rfl⟩ := hread [] (.inl rfl) .start
  have hend : Lexer.next ⟨[], p, .text⟩ = (.ok none, ⟨[], p, .text⟩) := rfl
  have hsource : Lexer.ofSource (style.source nodes) = ⟨style.nodes nodes ++ [], .start, .text⟩ := by
    simp [Lexer.ofSource, Style.source]
  have htokens : tokenize (style.source nodes) = .ok lexemes := by
    rw [tokenize, Lexer.tokens_eq_ok_iff, hsource]
    exact ⟨_, hrun, hend⟩
  exact parseTemplate_of_derives htokens hderives hlimit

/-- A template with an `each` block that has two branches, a negated section in one of them, a
helper call with markers inside a text, and a partial. -/
def inventory : List Node :=
  [.text "Hi, ", .path ⟨[.parent, .name "user", .name "first-name"]⟩ true, .text "! ",
    .block (.each (.path ⟨[.name "items"]⟩)) "each"
      [.block (.negated (.path ⟨[.name "done"]⟩)) "done"
        [.call "format" [.literal (.text "a \x7d\x7d \x7b\x7b \""), .literal (.number (.integer (-5))),
          .path ⟨[.root, .name "x"]⟩] false] none]
      (some [.partialRef "none" (some (.literal .null))])]

/-- The inventory in two styles, which two open blocks are enough to read. -/
theorem parseTemplate_source_inventory :
    Style.source ⟨true, true, false, true⟩ inventory =
      "Hi, \x7b\x7b../user.first-name\x7d\x7d! \x7b\x7b#each items\x7d\x7d" ++
      "\x7b\x7b^done\x7d\x7d\x7b\x7b\x7bformat \"a \x7d\x7d \x7b\x7b \\\"\" -5 @root.x" ++
      "\x7d\x7d\x7d\x7b\x7b/done\x7d\x7d\x7b\x7belse\x7d\x7d\x7b\x7b> none null\x7d\x7d" ++
      "\x7b\x7b/each\x7d\x7d" ∧
    parseTemplate 2 (Style.source ⟨true, true, false, true⟩ inventory) = .ok inventory ∧
    parseTemplate 2 (Style.source ⟨false, false, true, false⟩ inventory) = .ok inventory :=
  ⟨by decide +kernel, parseTemplate_source _ 2 inventory (by decide) (by decide),
    parseTemplate_source _ 2 inventory (by decide) (by decide)⟩

end TextTemplate

import TextTemplate.Proofs.Print.RoundTrip
import TextTemplate.Proofs.Seam

/-!
# Templates inside blocks

A source that is a template by itself can be put between the tags of a block, unless its ends make
markers with these: its tokens are the ones it has alone, wherever it stands, and so is its tree.
What becomes of the block is then up to its opener.

## Main definitions

- `IsBranch` — texts that can be put between the tags of a block
- `blockSource` — a block with two branches
- `OpensOn` — tags that open a block on the path that a word spells

## Main statements

- `readAs_of_tokenize` — a source is read as its tokens wherever it stands
- `OpensOn.parse`, `OpensOn.refuse` — a block around two templates is one, just if its word spells a
  path
-/

namespace TextTemplate

open Grammar

-- ════════════════════════════════════════════════════════════════════════
-- Sources at other places
-- ════════════════════════════════════════════════════════════════════════

/-- Whatever tag comes behind a source, its lexemes are those in front of the text at its end, and
this text, if it is not empty. -/
theorem Lexer.Front.exists_yields {source : String} {front : List Lexeme} {p : Position}
    {cs : List Char} (h : Front source front p cs) :
    ∃ lexemes, ∀ more : String, Boundary more.toList →
      ∃ q, (ofSource (source ++ more)).Yields lexemes ⟨more.toList, q, .text⟩ := by
  by_cases hne : cs = []
  · subst hne
    exact ⟨front, fun more hmore => ⟨p, h.extend more hmore.head_ne⟩⟩
  · refine ⟨front ++ [⟨.text (String.ofList cs), p⟩], fun more hmore => ?_⟩
    have hnext := next_of_scanText? (l := ⟨cs ++ more.toList, p, .text⟩) rfl
      (scanText?_free h.free hne hmore)
    exact ⟨p.advance cs, (h.extend more hmore.head_ne).append (.single hnext)⟩

/-- A source that has tokens is read as them wherever it stands, if a tag or nothing comes behind it
and it does not end with half of a marker. -/
theorem readAs_of_tokenize {source : String} {lexemes : List Lexeme}
    (h : tokenize source = .ok lexemes) (hlast : source.toList.getLast? ≠ some '\x7b')
    {rest : List Char} (hrest : Boundary rest) :
    ReadAs source.toList (lexemes.map Lexeme.token) rest := by
  obtain ⟨front, p, cs, hfront⟩ := Lexer.exists_front h hlast
  obtain ⟨found, hrun⟩ := hfront.exists_yields
  -- With nothing behind the source these are its own lexemes.
  obtain ⟨q, halone⟩ := hrun "" (.inl rfl)
  rw [String.append_empty] at halone
  have htokens := Lexer.tokens_eq_ok_iff.2 ⟨_, halone, Lexer.next_of_end rfl rfl⟩
  obtain rfl := Except.ok.inj (htokens.symm.trans h)
  intro start
  obtain ⟨q', hsource⟩ := hrun (String.ofList rest) (by rwa [String.toList_ofList])
  have halike : (Lexer.ofSource (source ++ String.ofList rest)).Alike Position.Any
      ⟨source.toList ++ rest, start, .text⟩ := by
    refine ⟨?_, trivial, .text⟩
    simp [Lexer.ofSource]
  obtain ⟨lexemes', ⟨rest', q'', mode⟩, hrun', hmap, ⟨hbehind, -, hmode⟩⟩ :=
    (Lexer.simulation_alike Position.any_after).exists_yields
      (fun hexit => congrArg Prod.fst hexit.1) hsource halike
  rw [String.toList_ofList] at hbehind
  cases hbehind
  cases hmode
  exact ⟨lexemes', q'', hrun', hmap⟩

/-- A tag is read as one item, by the lexemes in it. -/
theorem ReadAs.exists_nextItem {text rest : List Char} {escaped : Bool} {inner : List Token}
    (h : ReadAs text (Grammar.tag escaped inner) rest)
    (hinner : ∀ token ∈ inner, token.IsInner) (p : Position) :
    ∃ opened between p', Lexer.nextItem ⟨text ++ rest, p, .text⟩ =
        ((Item.ofTag escaped opened between).map some, ⟨rest, p', .text⟩) ∧
      between.map Lexeme.token = inner := by
  obtain ⟨lexemes, p', hrun, hmap⟩ := h p
  rw [← List.append_nil (Grammar.tag escaped inner)] at hmap
  obtain ⟨opened, closing, between, behind, rfl, rfl, hbehind⟩ := exists_tag_of_map hmap
  rw [List.map_eq_nil_iff.1 hbehind, List.append_nil] at hrun
  exact ⟨opened, between, p',
    Lexer.nextItem_of_tag (fun x hx => hinner _ (List.mem_map_of_mem hx)) hrun, rfl⟩

-- ════════════════════════════════════════════════════════════════════════
-- Branches
-- ════════════════════════════════════════════════════════════════════════

/-- A text that can be put between the tags of a block: it is a template by itself, and its ends
make no markers with the braces around it. -/
structure IsBranch (limit : Nat) (text : String) (nodes : List Node) : Prop where
  parses : parseTemplate limit text = .ok nodes
  head : text.toList.head? ≠ some '\x7d'
  last : text.toList.getLast? ≠ some '\x7b'

/-- A branch is read between tags as tokens that derive its nodes. -/
theorem IsBranch.exists_readsInside {limit : Nat} {text : String} {nodes : List Node}
    (h : IsBranch limit text nodes) :
    ∃ tokens, Derives tokens nodes ∧ Node.nestingOfAll nodes ≤ limit ∧
      ReadsInside text.toList tokens := by
  obtain ⟨lexemes, htokens, hderives, hnesting⟩ := derives_of_parseTemplate h.parses
  refine ⟨_, hderives, hnesting, ?_, fun rest hrest => readAs_of_tokenize htokens h.last hrest⟩
  intro rest hrest
  by_cases hne : text.toList = []
  · rw [hne, List.nil_append]
    exact hrest.head_ne
  · rw [List.head?_append_of_ne_nil _ hne]
    exact h.head

-- ════════════════════════════════════════════════════════════════════════
-- Blocks with two branches
-- ════════════════════════════════════════════════════════════════════════

/-- A block with two branches, by what stands in its opener, its name and the texts of its
branches. -/
def blockSource (opener name main other : String) : String :=
  "\x7b\x7b" ++ opener ++ "\x7d\x7d" ++ main ++ "\x7b\x7belse\x7d\x7d" ++ other ++
    "\x7b\x7b/" ++ name ++ "\x7d\x7d"

theorem toList_blockSource (opener name main other : String) :
    (blockSource opener name main other).toList =
      Style.tag true opener.toList [] ++ (main.toList ++ (Style.tag true ['e', 'l', 's', 'e'] [] ++
        (other.toList ++ Style.tag true ('/' :: name.toList) []))) := by
  simp [blockSource, Style.tag, Style.opening, Style.closing, openMarker, closeMarker]

/-- Pieces of a tag may stand in one text, with blanks between them. -/
theorem readsTags_of_text {text : String} {head : List Char} {more : List (List Char)}
    {token : Token} {tokens : List Token} (htext : text.toList = head ++ more.flatMap (' ' :: ·))
    (hhead : token.WrittenAs head) (hmore : List.Forall₂ Token.WrittenAs tokens more) :
    ReadsTags (Style.tag true text.toList []) (Grammar.tag true (token :: tokens)) := by
  have htag : Style.tag true text.toList [] = Style.tag true head more := by
    simp [Style.tag, htext]
  rw [htag]
  exact readsTags_tag hhead hmore

variable {limit : Nat} {opener name main other : String} {inner : List Token} {kind : BlockKind}
  {consequent alternate : List Node}

/-- A block around two branches is read as the block that its opener opens. -/
theorem parseTemplate_blockSource
    (hopen : ReadsTags (Style.tag true opener.toList []) (Grammar.tag true inner))
    (hopener : Opener inner kind name) (hname : name.toList.all isWordChar = true)
    (hmain : IsBranch limit main consequent) (hother : IsBranch limit other alternate) :
    parseTemplate (limit + 1) (blockSource opener name main other) =
      .ok [.block kind name consequent (some alternate)] := by
  obtain ⟨body, hbody, hnesting, hinside⟩ := hmain.exists_readsInside
  obtain ⟨body', hbody', hnesting', hinside'⟩ := hother.exists_readsInside
  have hotherwise : ReadsTags (Style.tag true ['e', 'l', 's', 'e'] [])
      (Grammar.tag true [.word "else"]) :=
    readsTags_tag (writtenAs_word rfl (by decide) (by decide) (by decide)) .nil
  have hclose : ReadsTags (Style.tag true ('/' :: name.toList) [])
      (Grammar.tag true [.word ("/" ++ name)]) :=
    readsTags_tag (writtenAs_mark rfl rfl hname) .nil
  have hblock := hopen.enclose hinside (hotherwise.enclose hinside' hclose)
  rw [← toList_blockSource] at hblock
  obtain ⟨lexemes, htokens, hmap⟩ := exists_tokenize_of_readAs (hblock.reads [] (by simp))
  refine parseTemplate_of_derives htokens ?_ ?_
  · rw [hmap]
    simpa using Derives.blockElse true true true hopener hbody (.inl rfl) hbody' .nil
  · simp only [Node.nestingOfAll, Node.nesting, Node.nestingOfBranch]
    omega

/-- A tag that opens a block on the path that a word spells, and is at fault if it spells none. -/
structure OpensOn (word opener : String) (inner : List Token) (kind : Path → BlockKind)
    (name : String) : Prop where
  isTag : ReadsTags (Style.tag true opener.toList []) (Grammar.tag true inner)
  isInner : ∀ token ∈ inner, token.IsInner
  isWord : name.toList.all isWordChar = true
  opener : ∀ {path}, Path.read word = .ok path → Opener inner (kind path) name
  fault : ∀ {e}, Path.read word = .error e → ∀ opened between,
    between.map Lexeme.token = inner →
      ∃ position, Item.ofTag true opened between = .error (.ofPathError word position e)

namespace OpensOn

variable {word : String} {kind : Path → BlockKind}

theorem parse (h : OpensOn word opener inner kind name) (hmain : IsBranch limit main consequent)
    (hother : IsBranch limit other alternate) {path : Path} (hread : Path.read word = .ok path) :
    parseTemplate (limit + 1) (blockSource opener name main other) =
      .ok [.block (kind path) name consequent (some alternate)] :=
  parseTemplate_blockSource h.isTag (h.opener hread) h.isWord hmain hother

/-- A block on a word that spells no path is refused for its opener. -/
theorem refuse (h : OpensOn word opener inner kind name) (hmain : IsBranch limit main consequent)
    (other : String) {e : PathError} (hread : Path.read word = .error e) :
    ∃ position, parseTemplate (limit + 1) (blockSource opener name main other) =
      .error (.ofPathError word position e) := by
  obtain ⟨_, -, -, hinside⟩ := hmain.exists_readsInside
  obtain ⟨rest, hsource, hrest⟩ : ∃ rest, (blockSource opener name main other).toList =
      Style.tag true opener.toList [] ++ rest ∧ rest.head? ≠ some '\x7d' := by
    refine ⟨_, toList_blockSource opener name main other, ?_⟩
    exact hinside.head _ (.inr (Style.openMarker_tag ..))
  obtain ⟨opened, between, p, hitem, hbetween⟩ :=
    (h.isTag.reads rest hrest).exists_nextItem h.isInner .start
  obtain ⟨position, hfault⟩ := h.fault hread opened between hbetween
  refine ⟨position, ?_⟩
  rw [hfault, ← hsource] at hitem
  simp only [parseTemplate, Parser.parse, Parser.ofSource, Parser.assemble_eq, Lexer.ofSource,
    hitem, Except.map]

end OpensOn

end TextTemplate

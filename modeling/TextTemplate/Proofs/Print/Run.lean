import TextTemplate.Proofs.Print.Scan
import TextTemplate.Proofs.Token.Front

/-!
# Reading printed sources

The text of a whole tag, and a text between tags, are read by calls in a row as the tokens they were
printed for, from wherever a lexer stands outside tags. What is read between tags is read between
the tags of a block, too.

## Main definitions

- `ReadAs` — texts that are read as a row of tokens before a given text
- `Boundary` — where a text between tags can end
- `ReadsTags`, `ReadsInside` — texts that begin and end with tags, and those that stand between tags

## Main statements

- `ReadsTags.enclose` — tags around a text are read as the tokens of all three
-/

namespace TextTemplate

open Text

/-- A text is read as a row of tokens where a given text comes behind it. -/
def ReadAs (text : List Char) (tokens : List Token) (rest : List Char) : Prop :=
  ∀ p, ∃ lexemes p', Lexer.Yields ⟨text ++ rest, p, .text⟩ lexemes ⟨rest, p', .text⟩ ∧
    lexemes.map Lexeme.token = tokens

theorem readAs_nil (rest : List Char) : ReadAs [] [] rest :=
  fun p => ⟨[], p, .nil _, rfl⟩

theorem ReadAs.append {text text' : List Char} {tokens tokens' : List Token} {rest : List Char}
    (h : ReadAs text tokens (text' ++ rest)) (h' : ReadAs text' tokens' rest) :
    ReadAs (text ++ text') (tokens ++ tokens') rest := by
  intro p
  obtain ⟨lexemes, p₁, hrun, rfl⟩ := h p
  obtain ⟨lexemes', p₂, hrun', rfl⟩ := h' p₁
  rw [List.append_assoc]
  exact ⟨lexemes ++ lexemes', p₂, hrun.append hrun', List.map_append⟩

/-- A source that is read to its end has the tokens that it is read as. -/
theorem exists_tokenize_of_readAs {source : String} {tokens : List Token}
    (h : ReadAs source.toList tokens []) :
    ∃ lexemes, tokenize source = .ok lexemes ∧ lexemes.map Lexeme.token = tokens := by
  obtain ⟨lexemes, p, hrun, hmap⟩ := h .start
  rw [List.append_nil] at hrun
  exact ⟨lexemes, Lexer.tokens_eq_ok_iff.2 ⟨_, hrun, Lexer.next_of_end rfl rfl⟩, hmap⟩

/-- Where a text between tags can end: at a tag or at the end of the source. -/
def Boundary (rest : List Char) : Prop :=
  rest = [] ∨ openMarker <+: rest

theorem Boundary.head_ne {rest : List Char} (h : Boundary rest) : rest.head? ≠ some '\x7d' := by
  obtain rfl | ⟨cs, rfl⟩ := h
  · simp
  · exact fun heq => absurd (Option.some.inj heq) (by decide)

theorem next_of_scanTag (blanks : List Char) {cs : List Char} {c : Char} {scan : Scan}
    {opened : Position}
    (hblanks : blanks.all isBlank = true) (hc : isBlank c = false)
    (hscan : ∀ position, scanTag opened position (c :: cs) = .ok scan) (p : Position) :
    ∃ q p', Lexer.next ⟨blanks ++ c :: cs, p, .tag opened⟩ =
      (.ok (some ⟨scan.token, q⟩),
        ⟨scan.rest, p', Lexer.modeAfter (.tag opened) q scan.token⟩) := by
  rw [List.all_eq_true] at hblanks
  have htake : (blanks ++ c :: cs).takeWhile isBlank = blanks := by
    rw [List.takeWhile_append_of_pos hblanks, List.takeWhile_cons_of_neg (by simp [hc]),
      List.append_nil]
  have hdrop : (blanks ++ c :: cs).dropWhile isBlank = c :: cs := by
    rw [List.dropWhile_append_of_pos hblanks, List.dropWhile_cons_of_neg (by simp [hc])]
  refine ⟨p.advance blanks, (p.advance blanks).advance scan.slice, ?_⟩
  simp only [Lexer.next, Lexer.skipBlanks, htake, hdrop, hscan, Lexer.take, Lexer.behind]

theorem next_of_writtenAs {token : Token} {text rest : List Char} (blanks : List Char)
    (h : token.WrittenAs text) (hblanks : blanks.all isBlank = true) (hrest : Ends rest)
    (p opened : Position) :
    ∃ q p', Lexer.next ⟨blanks ++ (text ++ rest), p, .tag opened⟩ =
      (.ok (some ⟨token, q⟩), ⟨rest, p', .tag opened⟩) := by
  obtain ⟨c, cs, rfl, hc, -⟩ := h.head
  have hmode : ∀ q, Lexer.modeAfter (.tag opened) q token = .tag opened := by
    intro q
    cases token with
    | text | startTag | endTag => exact h.isInner.elim
    | _ => rfl
  obtain ⟨q, p', hnext⟩ :=
    next_of_scanTag blanks hblanks hc (fun position => h.scan opened position rest hrest) p
  rw [hmode] at hnext
  exact ⟨q, p', hnext⟩

/-- Pieces of a tag, each behind a blank, are read one behind the other. -/
theorem yields_of_writtenAs {tokens : List Token} {texts : List (List Char)}
    (h : List.Forall₂ Token.WrittenAs tokens texts) {rest : List Char} (hrest : Ends rest)
    (p opened : Position) :
    ∃ lexemes p', Lexer.Yields ⟨texts.flatMap (' ' :: ·) ++ rest, p, .tag opened⟩ lexemes
        ⟨rest, p', .tag opened⟩ ∧ lexemes.map Lexeme.token = tokens := by
  induction h generalizing p with
  | nil => exact ⟨[], p, .nil _, rfl⟩
  | @cons token text tokens texts hwritten _ ih =>
    have hends : Ends (texts.flatMap (' ' :: ·) ++ rest) := by
      cases texts with
      | nil => exact hrest
      | cons text texts => exact ⟨' ', _, rfl, .inl rfl⟩
    obtain ⟨q, p₁, hnext⟩ :=
      next_of_writtenAs [' '] hwritten (by decide) hends p opened
    obtain ⟨lexemes, p₂, hrun, rfl⟩ := ih p₁
    refine ⟨⟨token, q⟩ :: lexemes, p₂, .cons ?_ hrun, rfl⟩
    rw [List.flatMap_cons, List.append_assoc]
    exact hnext

theorem exists_closing (escaped : Bool) :
    ∃ cs, Style.closing escaped = '\x7d' :: '\x7d' :: cs := by
  cases escaped with
  | false => exact ⟨_, rfl⟩
  | true => exact ⟨_, rfl⟩

/-- A closing marker ends a tag, unless it could be read as a longer one. -/
theorem scanTag_closing (escaped : Bool) {rest : List Char} (hrest : rest.head? ≠ some '\x7d')
    (opened position : Position) :
    scanTag opened position (Style.closing escaped ++ rest) =
      .ok ⟨.endTag escaped, Style.closing escaped, rest⟩ := by
  cases escaped with
  | false => rfl
  | true => exact scanTag_of_scansTag (.endDouble hrest) opened position

/-- An opening marker starts a tag, unless it could be read as a longer one. -/
theorem next_opening (escaped : Bool) {c : Char} (hc : c ≠ '\x7b') (cs : List Char)
    (p : Position) :
    ∃ p', Lexer.next ⟨Style.opening escaped ++ c :: cs, p, .text⟩ =
      (.ok (some ⟨.startTag escaped, p⟩), ⟨c :: cs, p', .tag p⟩) := by
  have hscan : scanText? (Style.opening escaped ++ c :: cs) =
      some ⟨.startTag escaped, Style.opening escaped, c :: cs⟩ := by
    cases escaped with
    | false => rfl
    | true => simp [Style.opening, openMarker, scanText?, hc]
  refine ⟨p.advance (Style.opening escaped), ?_⟩
  simp only [Lexer.next, hscan, Lexer.take, Lexer.behind, Lexer.modeAfter]

/-- A printed tag is read as a tag, unless its end could be read as a longer marker. -/
theorem readAs_tag {escaped : Bool} {head : List Char} {more : List (List Char)} {token : Token}
    {tokens : List Token} {rest : List Char} (hhead : token.WrittenAs head)
    (hmore : List.Forall₂ Token.WrittenAs tokens more) (hrest : rest.head? ≠ some '\x7d') :
    ReadAs (Style.tag escaped head more) (Grammar.tag escaped (token :: tokens)) rest := by
  intro p
  obtain ⟨es, hclosing⟩ := exists_closing escaped
  have hends : Ends (Style.closing escaped ++ rest) := ⟨'\x7d', _, by rw [hclosing]; rfl, .inr rfl⟩
  have hends' : Ends (more.flatMap (' ' :: ·) ++ (Style.closing escaped ++ rest)) := by
    cases more with
    | nil => exact hends
    | cons text texts => exact ⟨' ', _, rfl, .inl rfl⟩
  obtain ⟨c, cs, rfl, -, hbrace⟩ := hhead.head
  obtain ⟨p₁, hopen⟩ := next_opening escaped hbrace
    (cs ++ (more.flatMap (' ' :: ·) ++ (Style.closing escaped ++ rest))) p
  obtain ⟨q₁, p₂, hfirst⟩ := next_of_writtenAs [] hhead (by simp) hends' p₁ p
  obtain ⟨lexemes, p₃, hrun, rfl⟩ := yields_of_writtenAs hmore hends p₂ p
  obtain ⟨q₂, p₄, hclose⟩ : ∃ q p', Lexer.next ⟨Style.closing escaped ++ rest, p₃, .tag p⟩ =
      (.ok (some ⟨.endTag escaped, q⟩), ⟨rest, p', .text⟩) := by
    have hscan := fun position => scanTag_closing escaped hrest p position
    rw [hclosing] at hscan ⊢
    exact next_of_scanTag [] (by simp) (by decide) hscan p₃
  have htext : Style.tag escaped (c :: cs) more ++ rest = Style.opening escaped ++
      c :: (cs ++ (more.flatMap (' ' :: ·) ++ (Style.closing escaped ++ rest))) := by
    simp [Style.tag]
  refine ⟨⟨.startTag escaped, p⟩ :: ⟨token, q₁⟩ :: (lexemes ++ [⟨.endTag escaped, q₂⟩]), p₄,
    ?_, by simp [Grammar.tag]⟩
  rw [htext]
  exact .cons hopen (.cons hfirst (hrun.append (.single hclose)))

-- ════════════════════════════════════════════════════════════════════════
-- Tags around texts
-- ════════════════════════════════════════════════════════════════════════

theorem Style.openMarker_tag (escaped : Bool) (head : List Char) (more : List (List Char))
    (rest : List Char) : openMarker <+: tag escaped head more ++ rest := by
  rw [tag, List.append_assoc]
  cases escaped with
  | false => exact ⟨_, rfl⟩
  | true => exact ⟨_, rfl⟩

/-- A text that begins and ends with tags is read as tokens, unless its end could be read as a
longer marker. -/
structure ReadsTags (text : List Char) (tokens : List Token) : Prop where
  marked : openMarker <+: text
  reads : ∀ rest, rest.head? ≠ some '\x7d' → ReadAs text tokens rest

/-- A text is read as tokens between tags, and makes no longer marker with the one before it. -/
structure ReadsInside (text : List Char) (tokens : List Token) : Prop where
  head : ∀ rest, Boundary rest → (text ++ rest).head? ≠ some '\x7d'
  reads : ∀ rest, Boundary rest → ReadAs text tokens rest

theorem readsTags_tag {escaped : Bool} {head : List Char} {more : List (List Char)} {token : Token}
    {tokens : List Token} (hhead : token.WrittenAs head)
    (hmore : List.Forall₂ Token.WrittenAs tokens more) :
    ReadsTags (Style.tag escaped head more) (Grammar.tag escaped (token :: tokens)) where
  marked := by simpa using Style.openMarker_tag escaped head more []
  reads _ hrest := readAs_tag hhead hmore hrest

/-- Tags, a text between tags, and tags again are read one behind the other. -/
theorem ReadsTags.enclose {text body text' : List Char} {tokens inner tokens' : List Token}
    (h : ReadsTags text tokens) (hbody : ReadsInside body inner) (h' : ReadsTags text' tokens') :
    ReadsTags (text ++ (body ++ text')) (tokens ++ (inner ++ tokens')) where
  marked := h.marked.trans (List.prefix_append _ _)
  reads := by
    intro rest hrest
    have hend : Boundary (text' ++ rest) := .inr (h'.marked.trans (List.prefix_append _ _))
    refine (h.reads _ ?_).append ((hbody.reads _ hend).append (h'.reads rest hrest))
    rw [List.append_assoc]
    exact hbody.head _ hend

-- ════════════════════════════════════════════════════════════════════════
-- Texts between tags
-- ════════════════════════════════════════════════════════════════════════

/-- A printed text is read as a text up to the next tag. -/
theorem readAs_text {s : String} (h : (Node.text s).Printable) {rest : List Char}
    (hrest : Boundary rest) : ReadAs s.toList [.text s] rest := by
  intro p
  obtain ⟨hne, hmarker, -, hlast⟩ := h
  have hscan := scanText?_free ⟨hmarker, hlast⟩ hne hrest
  rw [String.ofList_toList] at hscan
  have hnext := Lexer.next_of_scanText? (l := ⟨s.toList ++ rest, p, .text⟩) rfl hscan
  exact ⟨[⟨.text s, p⟩], p.advance s.toList, .single hnext, rfl⟩

end TextTemplate

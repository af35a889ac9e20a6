import TextTemplate.Proofs.Seam

/-!
# Comments

A comment is a tag that is read and forgotten. It may be put wherever a text may stand: what is read
there without it is read with it, and comes to the same when it is rendered. It only keeps the texts
on its sides apart.

## Main definitions

- `IsComment` — the tags that are comments, by what they may contain

## Main statements

- `Engine.comments_are_invisible` — a comment changes nothing wherever a text may stand
-/

namespace TextTemplate

open Text

/-- A comment: a short one is closed by the first marker behind it, and a long one, between dashes,
by the first marker behind two dashes. -/
inductive IsComment : String → Prop
  | short {body : String} (hstart : ¬ ['-', '-'] <+: body.toList)
      (hmarker : ¬ closeMarker <:+: body.toList) (hlast : body.toList.getLast? ≠ some '\x7d') :
      IsComment ("\x7b\x7b!" ++ body ++ "\x7d\x7d")
  | long {body : String} (hmarker : ¬ longCommentEnd <:+: body.toList) :
      IsComment ("\x7b\x7b!--" ++ body ++ "--\x7d\x7d")

-- ════════════════════════════════════════════════════════════════════════
-- Reading a comment
-- ════════════════════════════════════════════════════════════════════════

variable {body : List Char}

theorem scanComment?_short (hstart : ¬ ['-', '-'] <+: body) (hmarker : ¬ closeMarker <:+: body)
    (hlast : body.getLast? ≠ some '\x7d') :
    scanComment? (body ++ closeMarker) =
      some ⟨.comment (String.ofList body), '!' :: body, closeMarker⟩ := by
  have hcut : cutAt closeMarker (body ++ closeMarker) = some (body, closeMarker) := by
    have happend := cutAt_pair_append hmarker hlast closeMarker
    simpa [cutAt, closeMarker] using happend
  unfold scanComment?
  split
  · next cs heq =>
    -- Dashes at the start would be those of the body, as the marker has none.
    obtain _ | ⟨c, _ | ⟨d, body⟩⟩ := body
    · cases heq
    · cases heq
    · obtain ⟨rfl, hmore⟩ := List.cons.inj heq
      obtain ⟨rfl, -⟩ := List.cons.inj hmore
      exact absurd ⟨body, rfl⟩ hstart
  · rw [hcut]
    rfl

/-- The end of a long comment does not begin in front of itself: it would have a brace where it has
a dash. -/
theorem cutAt_longCommentEnd (h : ¬ longCommentEnd <:+: body) :
    cutAt longCommentEnd (body ++ longCommentEnd) = some (body, longCommentEnd) := by
  rw [cutAt_append_of_forall]
  · simp [cutAt, longCommentEnd]
  rintro ds hne hsuffix ⟨rest, hrest⟩
  obtain _ | ⟨c, _ | ⟨d, _ | ⟨e, _ | ⟨f, ds⟩⟩⟩⟩ := ds
  · exact hne rfl
  · simp [longCommentEnd] at hrest
  · simp [longCommentEnd] at hrest
  · simp [longCommentEnd] at hrest
  · simp only [longCommentEnd, List.cons_append, List.nil_append, List.cons.injEq] at hrest
    obtain ⟨rfl, rfl, rfl, rfl, -⟩ := hrest
    exact h (List.IsInfix.trans ⟨[], ds, rfl⟩ hsuffix.isInfix)

theorem scanComment?_long (h : ¬ longCommentEnd <:+: body) :
    scanComment? ('-' :: '-' :: (body ++ longCommentEnd)) =
      some ⟨.comment (String.ofList body), '!' :: '-' :: '-' :: body ++ ['-', '-'],
        closeMarker⟩ := by
  simp only [scanComment?, cutAt_longCommentEnd h, Option.map_some]
  rfl

/-- A comment is a marker, a mark, and what is scanned as a comment up to the closing marker. -/
theorem IsComment.exists_scan {c : String} (h : IsComment c) :
    ∃ inner slice s, c.toList = '\x7b' :: '\x7b' :: '!' :: inner ∧
      scanComment? inner = some ⟨.comment s, slice, closeMarker⟩ := by
  cases h with
  | short hstart hmarker hlast =>
    exact ⟨_, _, _, by simp [closeMarker], scanComment?_short hstart hmarker hlast⟩
  | long hmarker => exact ⟨_, _, _, by simp [longCommentEnd], scanComment?_long hmarker⟩

/-- A comment is read as one item, and the lexer stands behind it. -/
theorem Lexer.nextItem_comment {c : String} (h : IsComment c) {rest : List Char}
    (hrest : rest.head? ≠ some '\x7d') (p : Position) :
    ∃ q, nextItem ⟨c.toList ++ rest, p, .text⟩ = (.ok (some .comment), ⟨rest, q, .text⟩) := by
  obtain ⟨inner, slice, s, hc, hscan⟩ := h.exists_scan
  rw [hc]
  -- The marker, the comment behind its mark, and the closing marker are read one by one.
  let l₀ : Lexer := ⟨'\x7b' :: '\x7b' :: '!' :: (inner ++ rest), p, .text⟩
  let l₁ : Lexer := ⟨'!' :: (inner ++ rest), p.advance openMarker, .tag p⟩
  let l₂ : Lexer := ⟨closeMarker ++ rest, l₁.position.advance slice, .tag p⟩
  let l₃ : Lexer := ⟨rest, l₂.position.advance closeMarker, .text⟩
  have hopen : l₀.next = (.ok (some ⟨.startTag true, p⟩), l₁) :=
    next_of_scanText? (l := l₀) rfl (scanText?_opening (by simp))
  have hcomment : l₁.next = (.ok (some ⟨.comment s, l₁.position⟩), l₂) := by
    have hskip : l₁.skipBlanks = l₁ := skipBlanks_of_head rfl (by decide)
    have hnext := next_of_scanTag (l := l₁) rfl
      (by rw [hskip]; exact scanTag_of_scansTag (.comment (scanComment?_append hscan rest)) _ _)
    rwa [hskip] at hnext
  have hclose : l₂.next = (.ok (some ⟨.endTag true, l₂.position⟩), l₃) := by
    have hskip : l₂.skipBlanks = l₂ := skipBlanks_of_head rfl (by decide)
    have hnext := next_of_scanTag (l := l₂) rfl
      (by rw [hskip]; exact scanTag_of_scansTag (.endDouble hrest) _ _)
    rwa [hskip] at hnext
  have hrun : l₀.Yields (Lexeme.tag true true p l₂.position [⟨.comment s, l₁.position⟩]) l₃ :=
    .cons hopen (.cons hcomment (.single hclose))
  exact ⟨l₃.position, nextItem_of_tag (by simp [Token.IsInner]) hrun⟩

/-- The parser forgets a comment. -/
theorem Parser.exists_assemble_comment {c : String} (h : IsComment c) {rest : List Char}
    (hrest : rest.head? ≠ some '\x7d') (limit : Nat) (o : Outline) (p : Position) :
    ∃ q, assemble limit o ⟨c.toList ++ rest, p, .text⟩ = assemble limit o ⟨rest, q, .text⟩ := by
  obtain ⟨q, hitem⟩ := Lexer.nextItem_comment h hrest p
  refine ⟨q, ?_⟩
  rw [assemble_eq, hitem]
  rfl

-- ════════════════════════════════════════════════════════════════════════
-- Templates with a comment
-- ════════════════════════════════════════════════════════════════════════

variable {a b c : String} {lexemes : List Lexeme}

/-- A comment behind a source that has tokens changes nothing that is parsed but that it cuts the
text that it stands in. -/
theorem agree_parseTemplate_comment (ha : tokenize a = .ok lexemes)
    (hlast : a.toList.getLast? ≠ some '\x7b') (hhead : b.toList.head? ≠ some '\x7d')
    (hc : IsComment c) (limit : Nat) :
    Agree (ParseError.Matches Position.Any) Splits (parseTemplate limit (a ++ b))
      (parseTemplate limit (a ++ c ++ b)) := by
  obtain ⟨front, p, cs, hfront⟩ := Lexer.exists_front ha hlast
  obtain ⟨inner, -, -, hopen, -⟩ := hc.exists_scan
  have hcomment : openMarker <+: (c ++ b).toList := by
    rw [String.toList_append, hopen]
    exact ⟨_, rfl⟩
  have hhead' : (c ++ b).toList.head? ≠ some '\x7d' := by
    obtain ⟨rest, hrest⟩ := hcomment
    rw [← hrest]
    simp [openMarker]
  rw [String.append_assoc]
  unfold parseTemplate Parser.parse Parser.ofSource
  obtain ⟨e, e', herror, herror', he⟩ | ⟨o, o', ho, hplain, hcommented⟩ :=
    hfront.assemble limit b (c ++ b) hhead hhead'
  · simp only [herror, herror']
    exact .error he
  · obtain ⟨q, htext⟩ := Parser.exists_assemble_tag hfront.free hcomment limit o' p
    rw [String.toList_append] at htext hcommented
    obtain ⟨q', hforgotten⟩ := Parser.exists_assemble_comment hc hhead limit (o'.withText cs) q
    simp only [hplain, hcommented, htext, hforgotten]
    exact Parser.agree_assemble_apart limit ho hfront.free b.toList p q'

/-- A comment changes nothing wherever a text may stand, also where blocks are open: both sources
can be read or both fail with the same error, and if they can be read they are rendered alike by
any engine that reads alike, whatever is registered on it, where the sink refuses nothing. -/
theorem Engine.comments_are_invisible (e : Engine) (ha : tokenize a = .ok lexemes)
    (hlast : a.toList.getLast? ≠ some '\x7b') (hhead : b.toList.head? ≠ some '\x7d')
    (hc : IsComment c) :
    Agree (ParseError.Matches Position.Any)
      (fun nodes nodes' => ∀ (registry : Registry) (data : Except String Value) (sink : Sink),
        sink.limit = none →
          ({ e with registry }.render nodes data sink).Same
            ({ e with registry }.render nodes' data sink))
      (e.compile (a ++ b)) (e.compile (a ++ c ++ b)) := by
  have hagree := agree_parseTemplate_comment ha hlast hhead hc e.config.maxBlockDepth
  unfold compile
  generalize parseTemplate _ (a ++ b) = plain at hagree ⊢
  generalize parseTemplate _ (a ++ c ++ b) = commented at hagree ⊢
  cases hagree with
  | error he => exact .error he
  | ok hsplits => exact .ok fun registry data sink hsink => hsplits.same_render _ data hsink

/-- A block with a note in the middle of its text. -/
def greetingHead : String := "\x7b\x7b#if user\x7d\x7dDear "

@[inherit_doc greetingHead]
def greetingTail : String := "reader\x7b\x7b/if\x7d\x7d"

@[inherit_doc greetingHead]
def greetingNote : String := "\x7b\x7b!--" ++ " \"\x7d\x7d \x7b\x7b " ++ "--\x7d\x7d"

theorem Engine.comments_are_invisible_greeting :
    (∃ lexemes, tokenize greetingHead = .ok lexemes) ∧
      greetingHead.toList.getLast? ≠ some '\x7b' ∧ greetingTail.toList.head? ≠ some '\x7d' ∧
      IsComment greetingNote ∧
      ∃ nodes, ({} : Engine).compile (greetingHead ++ greetingNote ++ greetingTail) = .ok nodes ∧
        (({} : Engine).render nodes (.ok (.keyed [("user", .boolean true)])) {}).sink.text =
          "Dear reader" := by
  have htokens : tokenize greetingHead =
      .ok [⟨.startTag true, ⟨0, 1, 1⟩⟩, ⟨.word "#if", ⟨2, 1, 3⟩⟩, ⟨.word "user", ⟨6, 1, 7⟩⟩,
        ⟨.endTag true, ⟨10, 1, 11⟩⟩, ⟨.text "Dear ", ⟨12, 1, 13⟩⟩] := by
    with_unfolding_all rfl
  have hnote : IsComment greetingNote := .long (by decide +kernel)
  have hplain : ({} : Engine).compile (greetingHead ++ greetingTail) =
      .ok [.block (.conditional (.path ⟨[.name "user"]⟩)) "if" [.text "Dear reader"] none] := by
    with_unfolding_all rfl
  have hagree := comments_are_invisible {} htokens (by decide) (b := greetingTail) (by decide) hnote
  refine ⟨⟨_, htokens⟩, by decide, by decide, hnote, ?_⟩
  rw [hplain] at hagree
  generalize ({} : Engine).compile (greetingHead ++ greetingNote ++ greetingTail) = commented
    at hagree ⊢
  cases hagree with
  | @ok _ nodes hrender =>
    have htext := (hrender {} (.ok (.keyed [("user", .boolean true)])) {} rfl).text
    refine ⟨nodes, rfl, htext.trans ?_⟩
    decide +kernel

end TextTemplate

import TextTemplate.Item
import TextTemplate.Proofs.Token.Run

/-!
# Items along a run

An item is read by calls in a row: one for a text, and for a tag those from its start marker to the
end marker that follows, or to the error that comes before one.

## Main definitions

- `Lexeme.tag` — the lexemes of a tag
-/

namespace TextTemplate

/-- The lexemes of a tag: the markers with their places, and what stands between them. -/
def Lexeme.tag (escaped closed : Bool) (opened closing : Position) (inner : List Lexeme) :
    List Lexeme :=
  ⟨.startTag escaped, opened⟩ :: (inner ++ [⟨.endTag closed, closing⟩])

namespace Lexer

theorem tagLexemes_of_isInner {escaped : Bool} {opened : Position} {l l' : Lexer} {lexeme : Lexeme}
    (hlexeme : lexeme.token.IsInner) (hnext : l.next = (.ok (some lexeme), l')) :
    l.tagLexemes escaped opened =
      ((l'.tagLexemes escaped opened).1.map (lexeme :: ·), (l'.tagLexemes escaped opened).2) := by
  rw [tagLexemes_eq, hnext]
  obtain ⟨token, position⟩ := lexeme
  cases token with
  | text | startTag | endTag => exact hlexeme.elim
  | _ => rfl

/-- A tag ends at the first end marker, which has to be the one that belongs to its start. -/
theorem tagLexemes_of_yields (escaped : Bool) (opened : Position) {closed : Bool}
    {closing : Position} {l l' : Lexer} {inner : List Lexeme}
    (hinner : ∀ lexeme ∈ inner, lexeme.token.IsInner)
    (h : l.Yields (inner ++ [⟨.endTag closed, closing⟩]) l') :
    l.tagLexemes escaped opened =
      (if closed = escaped then .ok inner else .error (.mismatchedDelimiters opened), l') := by
  induction inner generalizing l with
  | nil =>
    cases h with
    | cons hnext hnil =>
      cases hnil
      rw [tagLexemes_eq, hnext]
      simp only
      split <;> rfl
  | cons lexeme inner ih =>
    cases h with
    | cons hnext hrest =>
      have hmore := ih (fun x hx => hinner x (List.mem_cons_of_mem _ hx)) hrest
      rw [tagLexemes_of_isInner (hinner lexeme List.mem_cons_self) hnext, hmore]
      simp only
      split <;> rfl

theorem tagLexemes_of_error (escaped : Bool) (opened : Position) {l l₁ l' : Lexer}
    {inner : List Lexeme} {e : LexError} (hinner : ∀ lexeme ∈ inner, lexeme.token.IsInner)
    (h : l.Yields inner l₁) (herror : l₁.next = (.error e, l')) :
    l.tagLexemes escaped opened = (.error (.lex e), l') := by
  induction h with
  | nil => rw [tagLexemes_eq, herror]
  | @cons l _ _ lexeme lexemes hnext _ ih =>
    have hmore := ih (fun x hx => hinner x (List.mem_cons_of_mem _ hx)) herror
    rw [tagLexemes_of_isInner (hinner lexeme List.mem_cons_self) hnext, hmore]
    rfl

/-- A tag that is read comes from calls in a row up to its own end marker. -/
theorem yields_of_tagLexemes {escaped : Bool} {opened : Position} {l l' : Lexer}
    {inner : List Lexeme} (h : l.tagLexemes escaped opened = (.ok inner, l')) :
    (∀ lexeme ∈ inner, lexeme.token.IsInner) ∧
      ∃ closing, l.Yields (inner ++ [⟨.endTag escaped, closing⟩]) l' := by
  fun_induction tagLexemes escaped opened l generalizing inner l' with
  | case1 => simp at h
  | case2 => simp at h
  | case3 l lexeme l₁ hnext htoken =>
    cases h
    obtain ⟨token, closing⟩ := lexeme
    cases htoken
    exact ⟨by simp, closing, .single hnext⟩
  | case4 => simp at h
  | case5 => simp at h
  | case6 => simp at h
  | case7 l lexeme l₁ hnext result l₂ hmore hend hstart htext ih =>
    simp only [Prod.mk.injEq] at h
    obtain ⟨hresult, rfl⟩ := h
    obtain ⟨more, rfl, rfl⟩ := map_eq_ok_iff.1 hresult
    obtain ⟨hinner, closing, hrun⟩ := ih hmore
    refine ⟨?_, closing, .cons hnext hrun⟩
    intro x hx
    obtain rfl | hx := List.mem_cons.1 hx
    · cases htoken : x.token with
      | text s => exact (htext s htoken).elim
      | startTag e => exact (hstart e htoken).elim
      | endTag e => exact (hend e htoken).elim
      | _ => trivial
    · exact hinner x hx

/-- What lies ahead inside a tag: tokens that stand in tags, and behind them an end marker or an
error. -/
theorem exists_inner_of_mode_tag {l : Lexer} {opened : Position} (hmode : l.mode = .tag opened) :
    ∃ inner, (∀ lexeme ∈ inner, lexeme.token.IsInner) ∧
      ((∃ closed closing l', l.Yields (inner ++ [⟨.endTag closed, closing⟩]) l' ∧
          l'.mode = .text) ∨
        ∃ e l₁ l', l.Yields inner l₁ ∧ l₁.next = (.error e, l')) := by
  -- Every token takes a character, so an end marker or an error is reached.
  induction hn : l.rest.length using Nat.strongRecOn generalizing l with
  | ind n ih =>
    obtain ⟨e, hnext⟩ | ⟨lexeme, l₁, hnext, hlexeme⟩ := next_of_mode_tag hmode
    · exact ⟨[], by simp, .inr ⟨e, l, _, .nil l, hnext⟩⟩
    · obtain ⟨closed, htoken, hmode₁⟩ | ⟨hlexeme, hmode₁⟩ := hlexeme
      · obtain ⟨token, closing⟩ := lexeme
        cases htoken
        exact ⟨[], by simp, .inl ⟨closed, closing, l₁, .single hnext, hmode₁⟩⟩
      · have hlt : l₁.rest.length < n := hn ▸ length_rest_of_next hnext
        obtain ⟨inner, hinner, hend⟩ := ih _ hlt hmode₁ rfl
        refine ⟨lexeme :: inner, ?_, ?_⟩
        · intro x hx
          obtain rfl | hx := List.mem_cons.1 hx
          · exact hlexeme
          · exact hinner x hx
        · obtain ⟨closed, closing, l', hrun, hmode'⟩ | ⟨e, l₂, l', hrun, herror⟩ := hend
          · exact .inl ⟨closed, closing, l', .cons hnext hrun, hmode'⟩
          · exact .inr ⟨e, l₂, l', .cons hnext hrun, herror⟩

theorem nextItem_of_text {l l' : Lexer} {s : String} {position : Position}
    (h : l.next = (.ok (some ⟨.text s, position⟩), l')) :
    l.nextItem = (.ok (some (.node (.text s))), l') := by
  simp only [nextItem, h]

theorem nextItem_of_tag {escaped : Bool} {opened closing : Position} {l l' : Lexer}
    {inner : List Lexeme} (hinner : ∀ lexeme ∈ inner, lexeme.token.IsInner)
    (h : l.Yields (Lexeme.tag escaped escaped opened closing inner) l') :
    l.nextItem = ((Item.ofTag escaped opened inner).map some, l') := by
  cases h with
  | cons hnext hrest =>
    simp only [nextItem, hnext, tagLexemes_of_yields escaped opened hinner hrest, if_true]

/-- An item that is read is a text or a whole tag. -/
theorem yields_of_nextItem {l l' : Lexer} {item : Item}
    (h : l.nextItem = (.ok (some item), l')) :
    (∃ s position, l.Yields [⟨.text s, position⟩] l' ∧ item = .node (.text s)) ∨
    ∃ escaped opened closing inner, (∀ lexeme ∈ inner, lexeme.token.IsInner) ∧
      l.Yields (Lexeme.tag escaped escaped opened closing inner) l' ∧
      Item.ofTag escaped opened inner = .ok item := by
  unfold nextItem at h
  split at h
  · simp at h
  · simp at h
  · next lexeme l₁ hnext =>
    obtain ⟨token, position⟩ := lexeme
    split at h
    · next s htoken =>
      cases htoken
      cases h
      exact .inl ⟨s, position, .single hnext, rfl⟩
    · next escaped htoken =>
      cases htoken
      split at h
      · simp at h
      · next inner l₂ htag =>
        simp only [Prod.mk.injEq] at h
        obtain ⟨hitem, rfl⟩ := h
        obtain ⟨item', hitem', heq⟩ := map_eq_ok_iff.1 hitem
        cases heq
        obtain ⟨hinner, closing, hrun⟩ := yields_of_tagLexemes htag
        exact .inr ⟨escaped, position, closing, inner, hinner, .cons hnext hrun, hitem'⟩
    · simp at h

theorem next_of_nextItem_eq_none {l l' : Lexer} (h : l.nextItem = (.ok none, l')) :
    l.next = (.ok none, l) ∧ l' = l := by
  unfold nextItem at h
  split at h
  · simp at h
  · next hnext =>
    cases h
    obtain ⟨-, -, rfl⟩ := next_eq_none hnext
    exact ⟨hnext, rfl⟩
  · split at h
    · simp at h
    · split at h
      · simp at h
      · simp only [Prod.mk.injEq] at h
        obtain ⟨_, _, heq⟩ := map_eq_ok_iff.1 h.1
        cases heq
    · simp at h

end Lexer

end TextTemplate

import TextTemplate.Proofs.Resuming

/-!
# Guards that no source trips

The tokens of a source are well bracketed, so the parser meets start markers and texts only between
tags, and what stands in tags only there; nothing stands behind a comment. The errors with which it
guards itself against other rows of tokens are never given, whatever a source holds and however
often the parser is asked.

## Main statements

- `CountingParser.Rests.not_guard` — what a call gives is no guard's error
- `tokens_are_bracketed` — the shape of all that a lexer gives, and what the parser needs not expect
-/

namespace TextTemplate

/-- A call of a parser gives no error of a guard. -/
theorem CountingParser.Rests.not_guard {source : String} {limit : Nat} {p : CountingParser}
    (h : p.Rests source limit) {expected : Expectation} (hexpected : expected.IsGuard)
    (found : Token) (position : Position) :
    p.parse.1 ≠ .error (.unexpected found position expected) := by
  intro hguard
  obtain ⟨nodes, hnodes, -⟩ | ⟨fault, herror, -⟩ | ⟨e, herror, hown, -⟩ := h.parse_cases
  · rw [hguard] at hnodes
    cases hnodes
  · rw [hguard] at herror
    cases herror
  · rw [hguard] at herror
    cases herror
    exact hown hexpected

/-- The tokens of a source are well bracketed. Those that any number of calls give are the front of a
row of closed tags, with at most one text before each and behind the last, and all of such a row
where the end of the source is reported, which is between tags; a comment is followed at once by the
end of its tag. So however often a parser is asked, under whatever limit, it never finds another
token where text or a tag should stand, where a tag should go on or end, behind a comment, or at the
head of a tag. -/
theorem tokens_are_bracketed (source : String) :
    (∀ n, let tokens := (Lexer.found (Lexer.calls n (.ofSource source))).map Lexeme.token
      (∃ more, Bracketed (tokens ++ more)) ∧
      ((Lexer.after n (.ofSource source)).next.1 = .ok none →
        (Lexer.after n (.ofSource source)).mode = .text ∧ Bracketed tokens) ∧
      ∀ s p l', (Lexer.after n (.ofSource source)).next = (.ok (some ⟨.comment s, p⟩), l') →
        ∃ closed q l'', l'.next = (.ok (some ⟨.endTag closed, q⟩), l'')) ∧
    ∀ limit n expected, expected ∈ [.textOrTag, .tagEnd, .endOfComment, .tagHead] →
      ∀ found position, (Parser.after n (.ofSource source limit)).parse.1 ≠
        .error (.unexpected found position expected) := by
  constructor
  · intro n tokens
    obtain ⟨l, hrun, hbehind⟩ := Lexer.exists_yields_found n (.ofSource source)
    obtain ⟨more, hbracketed, hnil⟩ := hrun.exists_bracketed rfl
    refine ⟨⟨more, hbracketed⟩, ?_, ?_⟩
    · intro hend
      obtain ⟨hmode, -, -⟩ := Lexer.next_eq_none (Prod.ext (hbehind.trans hend) rfl)
      obtain rfl := hnil hmode
      rw [List.append_nil] at hbracketed
      exact ⟨(Lexer.next_eq_none (Prod.ext hend rfl)).1, hbracketed⟩
    · intro s p l' hcomment
      obtain ⟨closed, l'', hclose⟩ := Lexer.next_of_comment hcomment
      exact ⟨closed, l'.position, l'', hclose⟩
  · intro limit n expected hexpected found position
    have hguard : expected.IsGuard := by
      simp only [List.mem_cons, List.not_mem_nil, or_false] at hexpected
      obtain rfl | rfl | rfl | rfl := hexpected <;> trivial
    have hfirst := CountingParser.rests_ofSource source limit
    have hnot := (hfirst.after n).not_guard hguard found position
    rwa [(hfirst.after n).parse_eq, hfirst.toParser_after n] at hnot

/-- A comment between two texts. -/
def remarkedText : String := "a\x7b\x7b!x\x7d\x7db"

theorem tokens_are_bracketed_remarkedText :
    (Bracketed [.text "a", .startTag true, .comment "x", .endTag true, .text "b"] ∧
      (Lexer.after 5 (.ofSource remarkedText)).mode = .text) ∧
    (∃ p l', (Lexer.after 2 (.ofSource remarkedText)).next = (.ok (some ⟨.comment "x", p⟩), l') ∧
      ∃ closed q l'', l'.next = (.ok (some ⟨.endTag closed, q⟩), l'')) ∧
    ∀ found position, (Parser.after 1 (.ofSource remarkedText 0)).parse.1 ≠
      .error (.unexpected found position .endOfComment) := by
  obtain ⟨htokens, hguard⟩ := tokens_are_bracketed remarkedText
  obtain ⟨-, hend, -⟩ := htokens 5
  obtain ⟨hmode, hbracketed⟩ := hend (by with_unfolding_all rfl)
  obtain ⟨-, -, hcomment⟩ := htokens 2
  have hnext : (Lexer.after 2 (.ofSource remarkedText)).next =
      (.ok (some ⟨.comment "x", ⟨3, 1, 4⟩⟩), ⟨"\x7d\x7db".toList, ⟨5, 1, 6⟩, .tag ⟨1, 1, 2⟩⟩) := by
    with_unfolding_all rfl
  refine ⟨⟨?_, hmode⟩, ⟨_, _, hnext, hcomment _ _ _ hnext⟩, ?_⟩
  · have hfound : (Lexer.found (Lexer.calls 5 (.ofSource remarkedText))).map Lexeme.token =
        [.text "a", .startTag true, .comment "x", .endTag true, .text "b"] := by
      with_unfolding_all rfl
    rw [← hfound]
    exact hbracketed
  · exact hguard 0 1 .endOfComment (by simp)

end TextTemplate

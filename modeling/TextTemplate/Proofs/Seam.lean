import TextTemplate.Proofs.Render.SameText
import TextTemplate.Proofs.Simulation
import TextTemplate.Proofs.Token.Front

/-!
# Seams between sources

Where one source is put behind another, the parser comes to the seam as if the first one ended
there, unless the seam makes a marker. The text in front of it is read alone or goes on with a text
behind it. So what is parsed differs from what the parts give by texts that are cut in two.

## Main definitions

- `Position.Any` — positions that need not be related
- `Outline.withText` — an outline with the text in front of a seam
-/

namespace TextTemplate

/-- Positions that need not be related. -/
def Position.Any (_ _ : Position) : Prop := True

theorem Position.any_after (p p' : Position) (c : Char) (_ : Any p p') :
    Any (p.after c) (p'.after c) := trivial

/-- Lexers in front of the same text, between tags. -/
theorem Lexer.alike_text (cs : List Char) (p q : Position) :
    Lexer.Alike Position.Any ⟨cs, p, .text⟩ ⟨cs, q, .text⟩ :=
  ⟨rfl, trivial, .text⟩

theorem grows_splits : Grows Splits where
  nil := .nil
  concat n h := h.append (.node n .nil)
  block kind name h hbody := h.append (.block kind name hbody .nil)
  blockElse kind name h hbody hother := h.append (.blockElse kind name hbody hother .nil)

namespace Outline

variable {R : Position → Position → Prop} {o o' : Outline}

/-- The outline with a text, unless that is empty. -/
def withText (o : Outline) (cs : List Char) : Outline :=
  if cs = [] then o else { o with nodes := .text (String.ofList cs) :: o.nodes }

theorem withText_of_ne {cs : List Char} (h : cs ≠ []) :
    o.withText cs = { o with nodes := .text (String.ofList cs) :: o.nodes } :=
  if_neg h

/-- Outlines still match with more nodes behind them. -/
theorem Matches.behind (h : o.Matches R Splits o') (nodes nodes' : List Node)
    (hnodes : Splits nodes.reverse nodes'.reverse) :
    Matches R Splits { o with nodes := nodes ++ o.nodes }
      { o' with nodes := nodes' ++ o'.nodes } := by
  refine ⟨h.frames, ?_⟩
  simp only [List.reverse_append]
  exact h.nodes.append hnodes

theorem eq_of_finish {nodes : List Node} (h : o.finish = .ok nodes) : o = ⟨[], nodes.reverse⟩ := by
  obtain ⟨frames, nodes'⟩ := o
  cases frames with
  | nil =>
    cases h
    rw [List.reverse_reverse]
  | cons => cases h

end Outline

namespace Parser

variable {o o' : Outline} {cs more : List Char}

/-- A text without markers at the end of a source is taken into the outline. -/
theorem assemble_of_unmarked (h : ¬ openMarker <:+: cs) (limit : Nat) (o : Outline) (p : Position) :
    (assemble limit o ⟨cs, p, .text⟩).1 = (o.withText cs).finish := by
  by_cases hne : cs = []
  · subst hne
    rw [assemble_of_end (Lexer.next_of_end rfl rfl)]
    rfl
  · have hscan := scanText?_of_unmarked hne fun hprefix => h hprefix.isInfix
    rw [(Text.cutAt_eq_none_iff (by simp [openMarker])).2 h] at hscan
    have hnext := Lexer.next_of_scanText? (l := ⟨cs, p, .text⟩) rfl hscan
    rw [assemble_of_text hnext, assemble_of_end (Lexer.next_of_end rfl rfl),
      Outline.withText_of_ne hne]
    rfl

/-- The text in front of a tag is taken into the outline. -/
theorem exists_assemble_tag (h : IsFree cs) (hmore : openMarker <+: more) (limit : Nat)
    (o : Outline) (p : Position) :
    ∃ q, assemble limit o ⟨cs ++ more, p, .text⟩ =
      assemble limit (o.withText cs) ⟨more, q, .text⟩ := by
  by_cases hne : cs = []
  · subst hne
    exact ⟨p, rfl⟩
  · have hnext := Lexer.next_of_scanText? (l := ⟨cs ++ more, p, .text⟩) rfl
      (scanText?_free h hne (.inr hmore))
    refine ⟨p.advance cs, ?_⟩
    rw [assemble_of_text hnext, Outline.withText_of_ne hne]
    rfl

/-- The text in front of a seam may be read apart: the nodes are the same but for a cut. -/
theorem agree_assemble_apart (limit : Nat) (ho : o.Matches Position.Any Splits o')
    (h : IsFree cs) (more : List Char) (p q : Position) :
    Agree (ParseError.Matches Position.Any) Splits
      (assemble limit o ⟨cs ++ more, p, .text⟩).1
      (assemble limit (o'.withText cs) ⟨more, q, .text⟩).1 := by
  by_cases hne : cs = []
  · subst hne
    exact (Lexer.alike_text more p q).agree_assemble Position.any_after grows_splits ho limit
  · rw [Outline.withText_of_ne hne]
    obtain hnext | ⟨s, slice, rest, hscan, hnext⟩ := Lexer.next_free_append h hne more p
    · rw [assemble_of_text hnext]
      have htext : Splits [Node.text (String.ofList cs)] [.text (String.ofList cs)] := .refl _
      exact (Lexer.alike_text more _ q).agree_assemble Position.any_after grows_splits
        (ho.behind [_] [_] htext) limit
    · have hnext' := Lexer.next_of_scanText? (l := ⟨more, q, .text⟩) rfl hscan
      rw [assemble_of_text hnext, assemble_of_text hnext']
      have hcut : Splits [.text (String.ofList cs ++ s)] [.text (String.ofList cs), .text s] :=
        .cut _ _ .nil
      exact (Lexer.alike_text rest _ _).agree_assemble Position.any_after grows_splits
        (ho.behind [_] [_, _] hcut) limit

end Parser

/-- Whatever stands behind a source, the parser comes to the text at its end with matching outlines,
unless it fails before. -/
theorem Lexer.Front.assemble {source : String} {lexemes : List Lexeme} {p : Position}
    {cs : List Char} (h : Front source lexemes p cs) (limit : Nat) (more more' : String)
    (hmore : more.toList.head? ≠ some '\x7d') (hmore' : more'.toList.head? ≠ some '\x7d') :
    (∃ e e', (Parser.assemble limit .empty (ofSource (source ++ more))).1 = .error e ∧
        (Parser.assemble limit .empty (ofSource (source ++ more'))).1 = .error e' ∧
        e.Matches Position.Any e') ∨
      ∃ o o', o.Matches Position.Any Splits o' ∧
        Parser.assemble limit .empty (ofSource (source ++ more)) =
          Parser.assemble limit o ⟨cs ++ more.toList, p, .text⟩ ∧
        Parser.assemble limit .empty (ofSource (source ++ more')) =
          Parser.assemble limit o' ⟨cs ++ more'.toList, p, .text⟩ := by
  have hsim := simulation_yields (R := Position.Any) (fun _ => trivial)
    ⟨cs ++ more.toList, p, .text⟩ ⟨cs ++ more'.toList, p, .text⟩ rfl
  obtain herror | ⟨o, o', _, _, ho, ⟨rfl, rfl⟩, hl, hm⟩ :=
    hsim.assemble grows_splits limit (Outline.matches_empty grows_splits)
      ⟨lexemes, h.extend more hmore, h.extend more' hmore'⟩
  · exact .inl herror
  · exact .inr ⟨o, o', ho, hl, hm⟩

end TextTemplate

import TextTemplate.Proofs.Grammar.Parse
import TextTemplate.Proofs.Seam

/-!
# Templates one behind the other

Where two sources can be read one by one, they can be read one behind the other, unless the seam
makes a marker, and rendering them together is rendering the first and then the second.

## Main definitions

- `Engine.renderBoth` — renders two templates one after the other

## Main statements

- `Engine.compile_append_renders_both` — a source behind another one is rendered behind it
-/

namespace TextTemplate

open Grammar

-- ════════════════════════════════════════════════════════════════════════
-- Reading
-- ════════════════════════════════════════════════════════════════════════

variable {limit : Nat} {a b : String} {first second : List Node}

/-- A template can be read behind other nodes, where no block is open. -/
theorem Parser.assemble_behind (h : parseTemplate limit b = .ok second) (before : List Node) :
    (assemble limit ⟨[], before⟩ (.ofSource b)).1 = .ok (before.reverse ++ second) := by
  obtain ⟨lexemes, htokens, hderives, hnesting⟩ := derives_of_parseTemplate h
  obtain ⟨_, hrun, hend⟩ := Lexer.tokens_eq_ok_iff.1 htokens
  rw [hderives.assembles limit rfl hrun (by simpa using hnesting), assemble_of_end hend]
  simp [Outline.finish]

/-- Two templates can be read one behind the other. A text at the end of the first one may go on
with a text at the start of the second. -/
theorem exists_joint (ha : parseTemplate limit a = .ok first)
    (hb : parseTemplate limit b = .ok second) (hlast : a.toList.getLast? ≠ some '\x7b')
    (hhead : b.toList.head? ≠ some '\x7d') :
    ∃ joint, parseTemplate limit (a ++ b) = .ok joint ∧ Splits joint (first ++ second) := by
  have hparse : Parser.assemble limit .empty (.ofSource a) =
      (.ok first, (Parser.assemble limit .empty (.ofSource a)).2) := Prod.ext ha rfl
  obtain ⟨lexemes, htokens, -, -⟩ := derives_of_parseTemplate ha
  obtain ⟨front, p, cs, hfront⟩ := Lexer.exists_front htokens hlast
  -- Alone and with the second source behind it, the first one is read up to the text at its end.
  have hseam := hfront.assemble limit b "" hhead (by simp)
  rw [String.append_empty, hparse] at hseam
  obtain ⟨e, e', -, herror, -⟩ | ⟨o, o', ho, hjoint, halone⟩ := hseam
  · cases herror
  have hfinish : (o'.withText cs).finish = .ok first := by
    rw [← Parser.assemble_of_unmarked hfront.free.marker limit o' p]
    simpa using (congrArg Prod.fst halone).symm
  -- Behind the first template the second one is read as it is read alone.
  have hagree := Parser.agree_assemble_apart limit ho hfront.free b.toList p .start
  rw [Outline.eq_of_finish hfinish] at hagree
  have hbehind := Parser.assemble_behind hb first.reverse
  rw [List.reverse_reverse] at hbehind
  rw [show (⟨b.toList, .start, .text⟩ : Lexer) = .ofSource b from rfl, hbehind] at hagree
  generalize hresult : (Parser.assemble limit o ⟨cs ++ b.toList, p, .text⟩).1 = result at hagree
  cases hagree with
  | @ok joint _ hsplits => exact ⟨joint, (congrArg Prod.fst hjoint).trans hresult, hsplits⟩

/-- A source without markers is its only node. -/
theorem parseTemplate_of_unmarked {s : String} (h : ¬ openMarker <:+: s.toList) (limit : Nat) :
    parseTemplate limit s = .ok (if s = "" then [] else [.text s]) := by
  refine (Parser.assemble_of_unmarked h limit .empty .start).trans ?_
  by_cases hs : s = ""
  · subst hs
    rfl
  · have hne : s.toList ≠ [] := by simpa using hs
    rw [Outline.withText_of_ne hne, if_neg hs, String.ofList_toList]
    rfl

-- ════════════════════════════════════════════════════════════════════════
-- Rendering
-- ════════════════════════════════════════════════════════════════════════

theorem renderTemplate_append (config : Config) (expansions : Nat) (first second : List Node)
    (data : Value) :
    renderTemplate config expansions (first ++ second) data =
      (do
        renderTemplate config expansions first data
        renderTemplate config expansions second data) := by
  cases expansions with
  | zero => rfl
  | succ expansions => exact renderNodes_append _ first second _

theorem renderTemplate_text (config : Config) (expansions : Nat) (s : String) (data : Value)
    {stage : Stage} (h : stage.output.sink.limit = none) :
    renderTemplate config (expansions + 1) [.text s] data stage =
      .ok () ⟨{ stage.output with sink := stage.output.sink.append [s] }, stage.registry⟩ := by
  simp only [renderTemplate, renderNodes, Node.render, Render.bind_apply, Render.emit,
    Render.put_of_limit h]
  rfl

namespace Engine

/-- Renders two templates against the same data: the second one behind the first, with the registry
that this leaves, unless it fails. -/
def renderBoth (e : Engine) (first second : List Node) (data : Except String Value)
    (sink : Sink) : Rendered :=
  let rendered := e.render first data sink
  match rendered.outcome with
  | .ok _ => rendered.engine.render second data rendered.sink
  | .error _ => rendered

/-- Nodes are rendered one after the other. -/
theorem render_append (e : Engine) (first second : List Node) (data : Except String Value)
    {sink : Sink} (hsink : sink.limit = none) :
    e.render (first ++ second) data sink = e.renderBoth first second data sink := by
  cases data with
  | error message => rfl
  | ok value =>
    -- What is written into the output does not change how it escapes.
    have hsame := (Splits.refl first).same_renderTemplate e.config maxExpansions value _ _ _
      (e.same_start hsink)
    simp only [renderBoth, render, renderValue, renderTemplate_append, Render.bind_apply]
    generalize renderTemplate e.config maxExpansions first value _ = result at hsame ⊢
    cases result with
    | error halt stage => rfl
    | ok _ stage =>
      cases hsame with
      | ok _ hstage =>
        obtain ⟨⟨escape, sink'⟩, registry⟩ := stage
        obtain rfl : escape = e.config.escapeHtml := hstage.escape.1
        rfl

/-- A text is rendered as itself. -/
theorem render_text (e : Engine) (s : String) (value : Value) {sink : Sink}
    (hsink : sink.limit = none) :
    let rendered := e.render (if s = "" then [] else [.text s]) (.ok value) sink
    rendered.outcome = .ok () ∧ rendered.sink.text = sink.text ++ s ∧ rendered.engine = e := by
  by_cases hs : s = ""
  · subst hs
    exact ⟨rfl, String.append_empty.symm, rfl⟩
  · have hstart : (⟨⟨e.config.escapeHtml, sink⟩, e.registry⟩ : Stage).output.sink.limit = none :=
      hsink
    simp only [if_neg hs, render, renderValue, show maxExpansions = 999 + 1 from rfl,
      renderTemplate_text e.config 999 s value hstart]
    exact ⟨trivial, by simp [Sink.text_append], trivial⟩

/-- A source behind another one is rendered behind it: the two can be read together, unless the
seam makes a marker, and where the sink refuses nothing, what is rendered is what the first one
gives and then the second, or what the first one gives until it fails. In particular a source
without markers is rendered as itself. -/
theorem compile_append_renders_both (e : Engine) :
    (∀ {a b : String} {first second : List Node},
      e.compile a = .ok first → e.compile b = .ok second →
      a.toList.getLast? ≠ some '\x7b' → b.toList.head? ≠ some '\x7d' →
      ∃ joint, e.compile (a ++ b) = .ok joint ∧
        ∀ (registry : Registry) (data : Except String Value) (sink : Sink), sink.limit = none →
          ({ e with registry }.render joint data sink).Same
            ({ e with registry }.renderBoth first second data sink)) ∧
    ∀ s : String, ¬ openMarker <:+: s.toList →
      ∃ nodes, e.compile s = .ok nodes ∧
        ∀ (registry : Registry) (value : Value) (sink : Sink), sink.limit = none →
          let rendered := { e with registry }.render nodes (.ok value) sink
          rendered.outcome = .ok () ∧ rendered.sink.text = sink.text ++ s ∧
            rendered.engine = { e with registry } := by
  refine ⟨?_, ?_⟩
  · intro a b first second ha hb hlast hhead
    obtain ⟨joint, hjoint, hsplits⟩ := exists_joint ha hb hlast hhead
    refine ⟨joint, hjoint, ?_⟩
    intro registry data sink hsink
    rw [← render_append _ first second data hsink]
    exact hsplits.same_render _ data hsink
  · intro s hs
    refine ⟨_, parseTemplate_of_unmarked hs _, ?_⟩
    intro registry value sink hsink
    exact render_text { e with registry } s value hsink

/-- A letter in two parts, cut in the middle of a text. -/
def letterHead : String := "\x7b\x7b#if user\x7d\x7dHi\x7b\x7b/if\x7d\x7d, dear "

@[inherit_doc letterHead]
def letterBody : String := "reader \x7b\x7buser\x7d\x7d!"

theorem compile_append_renders_both_letter :
    (({} : Engine).compile letterHead =
        .ok [.block (.conditional (.path ⟨[.name "user"]⟩)) "if" [.text "Hi"] none,
          .text ", dear "] ∧
      ({} : Engine).compile letterBody =
        .ok [.text "reader ", .path ⟨[.name "user"]⟩ true, .text "!"] ∧
      letterHead.toList.getLast? ≠ some '\x7b' ∧ letterBody.toList.head? ≠ some '\x7d' ∧
      ∃ joint, ({} : Engine).compile (letterHead ++ letterBody) = .ok joint ∧
        (({} : Engine).render joint (.ok (.keyed [("user", .text "Al")])) {}).sink.text =
          "Hi, dear reader Al!") ∧
    ¬ openMarker <:+: "a \x7b b \x7d\x7d \x7b".toList ∧
      ∃ nodes, ({} : Engine).compile "a \x7b b \x7d\x7d \x7b" = .ok nodes ∧
        (({} : Engine).render nodes (.ok .null) {}).sink.text = "a \x7b b \x7d\x7d \x7b" := by
  have hhead : ({} : Engine).compile letterHead =
      .ok [.block (.conditional (.path ⟨[.name "user"]⟩)) "if" [.text "Hi"] none,
        .text ", dear "] := by
    with_unfolding_all rfl
  have hbody : ({} : Engine).compile letterBody =
      .ok [.text "reader ", .path ⟨[.name "user"]⟩ true, .text "!"] := by
    with_unfolding_all rfl
  have hlast : letterHead.toList.getLast? ≠ some '\x7b' := by decide
  have hfirst : letterBody.toList.head? ≠ some '\x7d' := by decide
  have hmarker : ¬ openMarker <:+: "a \x7b b \x7d\x7d \x7b".toList := by decide +kernel
  obtain ⟨joint, hjoint, hrender⟩ := (compile_append_renders_both {}).1 hhead hbody hlast hfirst
  obtain ⟨nodes, hnodes, hplain⟩ := (compile_append_renders_both {}).2 _ hmarker
  have htext := (hrender {} (.ok (.keyed [("user", .text "Al")])) {} rfl).text
  refine ⟨⟨hhead, hbody, hlast, hfirst, joint, hjoint, htext.symm.trans ?_⟩, hmarker, nodes, hnodes,
    (hplain {} .null {} rfl).2.1⟩
  decide +kernel

end Engine

end TextTemplate

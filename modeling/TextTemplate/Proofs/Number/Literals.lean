import TextTemplate.Proofs.Grammar.Parse
import TextTemplate.Proofs.Number.Reading
import TextTemplate.Proofs.Print.Run
import TextTemplate.Proofs.Render.Agreement
import TextTemplate.Proofs.Text.Unescaping

/-!
# Whole numbers in templates and in data

A whole number that is written in a template is kept if it has 64 bits with its sign, and data keeps
whole numbers of 64 bits without one as well. In between, a literal is the nearest double: helpers
receive another number than from data, and what a tag writes is the shortest whole number that
reads back as that double.

## Main definitions

- `Style.tagSource` — the source of one tag
- `Engine.StandsFor` — a word in a tag stands for a number

## Main statements

- `integer_literal_is_kept_iff` — literals below 2⁶³ are kept as data is, and no others
-/

namespace TextTemplate

open Text Grammar

-- ════════════════════════════════════════════════════════════════════════
-- Templates of one tag
-- ════════════════════════════════════════════════════════════════════════

/-- The source of a tag: what it begins with, and the texts behind it. -/
def Style.tagSource (escaped : Bool) (head : String) (more : List String) : String :=
  String.ofList (tag escaped head.toList (more.map String.toList))

theorem Grammar.Leaf.nestingOfAll_eq_zero {escaped : Bool} {tokens : List Token} {node : Node}
    (h : Leaf escaped tokens node) : Node.nestingOfAll [node] = 0 := by
  cases h <;> rfl

/-- A tag that stands for a node by itself is parsed as that node. -/
theorem parseTemplate_tagSource {escaped : Bool} {head : String} {more : List String}
    {token : Token} {tokens : List Token} {node : Node} (hhead : token.WrittenAs head.toList)
    (hmore : List.Forall₂ Token.WrittenAs tokens (more.map String.toList))
    (hleaf : Leaf escaped (token :: tokens) node) (limit : Nat) :
    parseTemplate limit (Style.tagSource escaped head more) = .ok [node] := by
  have hread : ReadAs (Style.tagSource escaped head more).toList
      (Grammar.tag escaped (token :: tokens)) [] := by
    rw [Style.tagSource, String.toList_ofList]
    exact readAs_tag hhead hmore (by simp)
  obtain ⟨lexemes, htokens, hmap⟩ := exists_tokenize_of_readAs hread
  refine parseTemplate_of_derives htokens ?_ (hleaf.nestingOfAll_eq_zero.trans_le limit.zero_le)
  rw [hmap]
  simpa using Derives.leaf hleaf .nil

/-- A node that only writes a value that nothing is escaped in renders to the text of that value. -/
theorem Engine.renderValue_value {e : Engine} {node : Node} {data v : Value} {escaped : Bool}
    (hnode : ∀ env, node.render env (.root data) = Render.emit (.value v escaped))
    (hplain : escapeHtml v.display = v.display) {sink sink' : Sink}
    (hsink : sink.write v.display = .ok sink') :
    e.renderValue [node] data sink = ⟨.ok (), sink', e⟩ := by
  have hchunk : ∀ escape, Piece.chunk escape (.value v escaped) = v.display := by
    intro escape
    simp only [Piece.chunk, hplain, ite_self]
  have hput : ∀ escape, Output.put ⟨escape, sink⟩ (.value v escaped) = .ok ⟨escape, sink'⟩ := by
    intro escape
    simp only [Output.put, hchunk, hsink]
    rfl
  have htemplate : ∀ stage : Stage, stage.output.sink = sink →
      renderTemplate e.config maxExpansions [node] data stage =
        .ok () { stage with output := ⟨stage.output.escape, sink'⟩ } := by
    rintro ⟨⟨escape, _⟩, registry⟩ rfl
    change renderTemplate e.config (999 + 1) [node] data _ = _
    rw [renderTemplate]
    simp only [renderNodes, hnode, Render.bind_apply, Render.emit, hput]
    rfl
  simp only [renderValue, htemplate ⟨⟨e.config.escapeHtml, sink⟩, e.registry⟩ rfl]

-- ════════════════════════════════════════════════════════════════════════
-- Words that stand for numbers
-- ════════════════════════════════════════════════════════════════════════

/-- Runs a helper with arguments and writes what it hands back. -/
def Env.runHelper (env : Env) (helper : Helper) (scope : Scope) (arguments : List Value)
    (escaped : Bool) : Render Unit := do
  let reply ← (helper scope arguments).run ⟨env.config, fun _ _ => pure (), env.expand⟩
  reply.emit escaped

theorem Node.render_call (name : String) (arguments : List Param) (escaped : Bool) (env : Env)
    (scope : Scope) {stage : Stage} {helper : Helper}
    (h : stage.registry.helper? name = some helper) :
    (Node.call name arguments escaped).render env scope stage =
      env.runHelper helper scope (arguments.map (Param.value scope)) escaped stage := by
  simp only [Node.render, Env.renderCall, Env.runHelper, Render.bind_apply, Render.find_apply, h]

/-- A word stands for a number in templates that are rendered against some data: by itself in a tag
it writes the text of the number, escaped or not, and behind the name of a helper it is an argument
that the helper receives as that number. -/
structure Engine.StandsFor (e : Engine) (data : Value) (word : String) (n : Number) : Prop where
  writes : ∀ escaped, ∃ nodes, e.compile (Style.tagSource escaped word []) = .ok nodes ∧
    ∀ sink sink', sink.write n.display = .ok sink' →
      e.renderValue nodes data sink = ⟨.ok (), sink', e⟩
  receives : ∀ escaped name, IsCallName name → ∃ argument,
    e.compile (Style.tagSource escaped name [word]) = .ok [.call name [argument] escaped] ∧
    ∀ (env : Env) (stage : Stage) (helper : Helper), stage.registry.helper? name = some helper →
      (Node.call name [argument] escaped).render env (.root data) stage =
        env.runHelper helper (.root data) [.number n] escaped stage

/-- A helper that refuses every other number than one. -/
def expecting (n : Number) : Helper
  | _, [.number m] => if m = n then .reply .nothing else .fail .write
  | _, _ => .fail .write

/-- A word stands for one number at most, since a helper can tell numbers apart. -/
theorem Engine.StandsFor.unique {e : Engine} {data : Value} {word : String} {n n' : Number}
    (h : e.StandsFor data word n) (h' : e.StandsFor data word n') : n' = n := by
  have hname : IsCallName "h" := by decide
  obtain ⟨argument, hcompile, hrender⟩ := h.receives true "h" hname
  obtain ⟨argument', hcompile', hrender'⟩ := h'.receives true "h" hname
  obtain rfl : argument = argument' := by
    rw [hcompile] at hcompile'
    cases hcompile'
    rfl
  let env : Env := ⟨{}, none, fun _ _ => pure ()⟩
  let stage : Stage := ⟨⟨true, {}⟩, Registry.addHelper {} "h" (expecting n)⟩
  have hsame := (hrender env stage (expecting n) rfl).symm.trans
    (hrender' env stage (expecting n) rfl)
  by_contra hne
  simp only [Env.runHelper, expecting, if_true, if_neg hne, Script.run, Render.bind_apply] at hsame
  cases hsame

/-- Nothing in the text of a whole number is escaped. -/
theorem escapeHtml_integerText (i : Int) :
    escapeHtml (Number.integerText i) = Number.integerText i := by
  refine escapeHtml_of_plain fun c hc => ?_
  rw [Number.toList_integerText, List.mem_append] at hc
  refine notMem_of_isDigit_or_minus ?_ (by decide)
  obtain hminus | hdigit := hc
  · split at hminus
    · exact .inr (List.mem_singleton.1 hminus)
    · cases hminus
  · exact .inl (Nat.isDigit_of_mem_toDigits (by decide) (by decide) hdigit)

/-- A word that is read as an argument stands for the number that the argument is, if it also
writes it by itself. -/
theorem Engine.standsFor_of_writtenAs {e : Engine} {data : Value} {word : String} {token : Token}
    {argument : Param} {n : Number} (node : Bool → Node)
    (hwritten : token.WrittenAs word.toList) (hparameter : Parameter token argument)
    (hvalue : argument.value (.root data) = .number n)
    (hleaf : ∀ escaped, Leaf escaped [token] (node escaped))
    (hnode : ∀ escaped env, (node escaped).render env (.root data) =
      Render.emit (.value (.number n) escaped))
    (hplain : escapeHtml n.display = n.display) : e.StandsFor data word n where
  writes escaped :=
    ⟨[node escaped], parseTemplate_tagSource hwritten .nil (hleaf escaped) _,
      fun _ _ => renderValue_value (hnode escaped) hplain⟩
  receives escaped name hname := by
    obtain ⟨hhead, hcall⟩ := writtenAs_callName hname
    refine ⟨argument, parseTemplate_tagSource hhead (.cons hwritten .nil) ?_ _, ?_⟩
    · exact .call (fun helse => hname.2.2 (helse ▸ List.mem_cons_self)) hcall (List.cons_ne_nil _ _)
        (.cons hparameter .nil)
    · intro env stage helper hfound
      rw [Node.render_call name [argument] escaped env _ hfound, List.map_singleton, hvalue]

/-- The text of a whole number stands for the number that it spells in a tag. -/
theorem Engine.standsFor_literal (e : Engine) (data : Value) {i : Int} {n : Number}
    (hspells : wholeNumber? (decide (i < 0)) (Nat.toDigits 10 i.natAbs) = some n)
    (hplain : escapeHtml n.display = n.display) :
    e.StandsFor data (Number.integerText i) n :=
  standsFor_of_writtenAs (.literal (.number n)) (writtenAs_number hspells)
    (.literal (.number n)) rfl (fun _ => .literal (.number n))
    (fun _ _ => by rw [Node.render]) hplain

/-- A key of the data stands for the number under it. -/
theorem Engine.standsFor_member (e : Engine) (i : Int) :
    e.StandsFor (.keyed [("x", .number (.integer i))]) "x" (.integer i) := by
  have hlist : "x".toList = ['x'] := rfl
  have hwritten := writtenAs_word hlist (by decide) (by decide) (by decide)
  have hplain : IsPlain "x" := by
    rintro c ⟨⟩
    decide
  have hread : Path.read "x" = .ok ⟨[.name "x"]⟩ := by decide
  have hvalue : (Scope.root (.keyed [("x", .number (.integer i))])).resolve ⟨[.name "x"]⟩ =
      some (.number (.integer i)) := rfl
  refine standsFor_of_writtenAs (.path ⟨[.name "x"]⟩) hwritten (.path hplain hread) ?_
    (fun _ => .path (by decide) hplain hread) (fun _ _ => ?_) (escapeHtml_integerText i)
  · rw [Param.value, Param.value?, hvalue, Option.getD_some]
  · rw [Node.render, hvalue]

/-- Below 2⁶³ the text of a whole number stands for that number. -/
theorem Engine.standsFor_integer (e : Engine) (data : Value) {i : Int} (hlow : -2 ^ 63 ≤ i)
    (hhigh : i < 2 ^ 63) : e.StandsFor data (Number.integerText i) (.integer i) := by
  have hsigned : Number.isSigned64 i = true := by
    simp only [Number.isSigned64, Bool.and_eq_true, decide_eq_true_eq]
    omega
  refine e.standsFor_literal data ?_ (escapeHtml_integerText i)
  rw [wholeNumber?_toDigits, if_pos hsigned]

/-- From 2⁶³ on the text of a whole number stands for the nearest double, which is a multiple of
2048, and is written without a point. -/
theorem Engine.exists_standsFor_float (e : Engine) {i : Int} (hlow : 2 ^ 63 ≤ i)
    (hhigh : i < 2 ^ 64) :
    ∃ (x : Binary64) (d : Nat), Binary64.ofNat? false i.natAbs = some x ∧ x.IsWhole (d * 2 ^ 11) ∧
      (((d * 2 ^ 11 : Nat) : Int) - i).natAbs ≤ 2 ^ 10 ∧
      (Number.float x).display = Number.integerText x.shortestWhole ∧
      ∀ data, e.StandsFor data (Number.integerText i) (.float x) := by
  obtain ⟨x, d, hnearest, -, hwhole, hd, hover, hunder⟩ :=
    Binary64.exists_ofNat? false (n := i.natAbs) (k := 11) (by omega) (by omega) (by decide)
  have hdisplay := Number.display_whole (Nat.mul_pos hd (by decide)) hwhole
  have hsigned : ¬ Number.isSigned64 i = true := by
    simp only [Number.isSigned64, Bool.and_eq_true, decide_eq_true_eq]
    omega
  refine ⟨x, d, hnearest, hwhole, ?_, hdisplay, fun data => e.standsFor_literal data ?_ ?_⟩
  · omega
  · rw [wholeNumber?_toDigits, if_neg hsigned, decide_eq_false (by omega), hnearest]
    rfl
  · rw [hdisplay, escapeHtml_integerText]

/-- A whole number of 64 bits, with or without a sign, is read from data as it is, and the path that
leads to it stands for it. Its text in a template stands for it just below 2⁶³. From there on it
stands for the nearest double, a multiple of 2048 that is off by 1024 at most; a tag still writes
the text of the number just if that is the shortest whole number that reads back as the double. -/
theorem integer_literal_is_kept_iff (e : Engine) (i : Int) (hlow : -2 ^ 63 ≤ i)
    (hhigh : i < 2 ^ 64) :
    Value.read? ("\x7b\"x\":" ++ Number.integerText i ++ "\x7d") =
      some (.keyed [("x", .number (.integer i))]) ∧
    e.StandsFor (.keyed [("x", .number (.integer i))]) "x" (.integer i) ∧
    (∀ data, e.StandsFor data (Number.integerText i) (.integer i) ↔ i < 2 ^ 63) ∧
    (2 ^ 63 ≤ i → ∃ (x : Binary64) (d : Nat),
      Binary64.ofNat? false i.natAbs = some x ∧ x.IsWhole (d * 2 ^ 11) ∧
      (((d * 2 ^ 11 : Nat) : Int) - i).natAbs ≤ 2 ^ 10 ∧
      (∀ data, e.StandsFor data (Number.integerText i) (.float x)) ∧
      ((Number.float x).display = Number.integerText i ↔ x.shortestWhole = i)) := by
  refine ⟨Value.read?_alone hlow hhigh, e.standsFor_member i, fun data => ⟨fun hkept => ?_, ?_⟩,
    fun hlarge => ?_⟩
  · by_contra hlarge
    obtain ⟨x, -, -, -, -, -, hstands⟩ := e.exists_standsFor_float (Int.not_lt.1 hlarge) hhigh
    cases hkept.unique (hstands data)
  · exact e.standsFor_integer data hlow
  · obtain ⟨x, d, hnearest, hwhole, hnear, hdisplay, hstands⟩ :=
      e.exists_standsFor_float hlarge hhigh
    refine ⟨x, d, hnearest, hwhole, hnear, hstands, ?_⟩
    rw [hdisplay, Number.integerText_injective.eq_iff]

/-- The greatest whole number of 64 bits with a sign is kept in a template. The greatest one without
a sign is kept in data alone, and what a tag writes for it is not its text. -/
theorem integer_literal_is_kept_iff_limits :
    Engine.StandsFor {} .null "9223372036854775807" (.integer 9223372036854775807) ∧
    Value.read? "\x7b\"x\":18446744073709551615\x7d" =
      some (.keyed [("x", .number (.integer 18446744073709551615))]) ∧
    Engine.StandsFor {} (.keyed [("x", .number (.integer 18446744073709551615))]) "x"
      (.integer 18446744073709551615) ∧
    ¬ Engine.StandsFor {} .null "18446744073709551615" (.integer 18446744073709551615) ∧
    ∃ x, Binary64.ofNat? false 18446744073709551615 = some x ∧
      Engine.StandsFor {} .null "18446744073709551615" (.float x) ∧
      ((Number.float x).display = "18446744073709551615" ↔
        x.shortestWhole = 18446744073709551615) := by
  obtain ⟨-, -, hsigned, -⟩ :=
    integer_literal_is_kept_iff {} 9223372036854775807 (by decide) (by decide)
  obtain ⟨hread, hmember, hkept, hlarge⟩ :=
    integer_literal_is_kept_iff {} 18446744073709551615 (by decide) (by decide)
  obtain ⟨x, -, hnearest, -, -, hstands, hdisplay⟩ := hlarge (by decide)
  have hsignedText : Number.integerText 9223372036854775807 = "9223372036854775807" := by
    decide +kernel
  have htext : Number.integerText 18446744073709551615 = "18446744073709551615" := by
    decide +kernel
  rw [hsignedText] at hsigned
  rw [htext] at hread hkept hstands hdisplay
  exact ⟨(hsigned .null).2 (by decide), hread, hmember,
    fun h => absurd ((hkept .null).1 h) (by decide), x, hnearest, hstands .null, hdisplay⟩

/-- The least whole number that needs its 64th bit for its size is not kept in a template: `{{i}}`
writes another number than `i`. -/
theorem integer_literal_not_kept :
    (∃ nodes, Engine.compile {} "\x7b\x7b9223372036854775808\x7d\x7d" = .ok nodes ∧
      Engine.renderValue {} nodes .null {} =
        ⟨.ok (), { chunks := ["9223372036854776000"] }, {}⟩) ∧
    ¬ ∀ (e : Engine) (data : Value) (i : Int), -2 ^ 63 ≤ i → i < 2 ^ 64 →
      e.StandsFor data (Number.integerText i) (.integer i) := by
  let x : Binary64 := ⟨false, 4890909195324358656, by decide⟩
  have htext : Number.integerText 9223372036854775808 = "9223372036854775808" := by
    decide +kernel
  have hdisplay : (Number.float x).display = "9223372036854776000" := by decide +kernel
  have hstands : ∀ data, Engine.StandsFor {} data (Number.integerText 9223372036854775808)
      (.float x) := by
    intro data
    refine Engine.standsFor_literal {} data (by decide +kernel) ?_
    rw [hdisplay]
    decide +kernel
  constructor
  · obtain ⟨nodes, hcompile, hrender⟩ := (hstands .null).writes true
    have hsource : Style.tagSource true (Number.integerText 9223372036854775808) [] =
        "\x7b\x7b9223372036854775808\x7d\x7d" := by
      rw [htext]
      decide
    rw [hsource] at hcompile
    exact ⟨nodes, hcompile, hrender {} _ (by rw [hdisplay]; rfl)⟩
  · intro hkept
    cases (hstands .null).unique (hkept {} .null 9223372036854775808 (by decide) (by decide))

end TextTemplate

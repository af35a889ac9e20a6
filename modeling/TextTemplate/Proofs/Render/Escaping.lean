import TextTemplate.Proofs.Render.Reach
import TextTemplate.Proofs.Render.Writing
import TextTemplate.Proofs.Text.HtmlEscape
import TextTemplate.Stock

/-!
# Data cannot bring markup into a template

Where a template, the partials it reaches and the helpers leave all writing of values to tags that
escape, what a rendering writes are the texts of the template and escaped values. An escaped value
has no markup, so the markup of the output is that of the texts, in order, whatever the data.

## Main definitions

- `Node.IsEscaped`, `Script.IsQuiet` — nodes that write values escaped only, and scripts that write
  nothing
- `Written.text?` — the text of a template that was written
- `Written.IsInert` — a text of the template, or an escaped value
-/

namespace TextTemplate

open Text

/-- A node that writes values escaped only, if it writes any. -/
def Node.IsEscaped : Node → Prop
  | path _ escaped | literal _ escaped | call _ _ escaped => escaped = true
  | text _ | block _ _ _ _ | partialRef _ _ => True

/-- A script that neither begins with a write nor hands back anything as safe. -/
def Script.IsQuiet : Script → Prop
  | write _ _ | reply (.safe _) => False
  | _ => True

namespace Written

/-- The text of a template that was written. -/
def text? : Written → Option String
  | static s => some s
  | _ => none

/-- A text of the template, or a value that was to be escaped. -/
inductive IsInert : Written → Prop
  | static (s : String) : IsInert (.static s)
  | interpolated (v : Value) : IsInert (.interpolated v true)

/-- The markup of what is written is that of the texts among it. -/
theorem filter_isMarkup {written : List Written} (h : ∀ w ∈ written, w.IsInert) :
    (String.join (written.map (chunk true))).toList.filter isMarkup =
      (String.join (written.filterMap text?)).toList.filter isMarkup := by
  induction written with
  | nil => rfl
  | cons w written ih =>
    obtain ⟨hw, hwritten⟩ := List.forall_mem_cons.1 h
    cases hw with
    | static s =>
      simp only [List.map_cons, List.filterMap_cons, text?, String.join_cons, String.toList_append,
        List.filter_append, ih hwritten]
      rfl
    | interpolated v =>
      have hnone : (escapeHtml v.display).toList.filter isMarkup = [] := by
        rw [List.filter_eq_nil_iff]
        intro c hc
        simp [isMarkup_of_mem_escapeHtml hc]
      have hchunk : (interpolated v true).chunk true = escapeHtml v.display := rfl
      simp only [List.map_cons, List.filterMap_cons, text?, String.join_cons, String.toList_append,
        List.filter_append, ih hwritten, hchunk, hnone, List.nil_append]

end Written

namespace Engine

variable {e : Engine} {nodes : List Node}

/-- Where all nodes and scripts that can be reached leave values to tags that escape, nothing else
is written than texts of the template and escaped values. -/
theorem isInert_of_within (hnodes : ∀ n, e.registry.Reaches nodes n → n.IsEscaped)
    (hscripts : ∀ s, e.registry.MayRun s → s.IsQuiet) {w : Written}
    (hw : w.Within (Bounds.reached e.registry nodes)) : w.IsInert := by
  cases w with
  | static s => exact .static s
  | interpolated v escaped =>
    have hescaped : escaped = true := by
      obtain ⟨p, hn⟩ | hn | ⟨name, arguments, hn⟩ := hw
      · exact hnodes _ hn
      · exact hnodes _ hn
      · exact hnodes _ hn
    subst hescaped
    exact .interpolated v
  | helper piece =>
    obtain ⟨next, hs⟩ | ⟨s, rfl, hs⟩ := hw
    · exact (hscripts _ hs).elim
    · exact (hscripts _ hs).elim

end Engine

-- ════════════════════════════════════════════════════════════════════════
-- A tree of names
-- ════════════════════════════════════════════════════════════════════════

/-- A partial that shows a name, a note in brackets, and itself for what is below. -/
def nameTree : List Node :=
  [.text "<li>", .path ⟨[.name "name"]⟩ true, .call "wrap" [.path ⟨[.name "note"]⟩] true,
    .block (.each (.path ⟨[.name "below"]⟩)) "each" [.partialRef "tree" none] none, .text "</li>"]

/-- What is registered for the tree of names: the partial, and a helper for the brackets. -/
def nameTreeRegistry : Registry :=
  Registry.addHelper (Registry.addPartial {} "tree" nameTree) "wrap" Stock.wrap

/-- An engine for the tree of names, which escapes. -/
def nameTreeEngine : Engine :=
  ⟨{}, nameTreeRegistry⟩

theorem isEscaped_of_occurs_nameTree {n : Node} (h : n.Occurs nameTree) : n.IsEscaped := by
  cases h with
  | head => trivial
  | tail h =>
  cases h with
  | head => rfl
  | tail h =>
  cases h with
  | head => rfl
  | tail h =>
  cases h with
  | head => trivial
  | tail h =>
    cases h with
    | head => trivial
    | tail h => cases h
  | consequent h =>
    cases h with
    | head => trivial
    | tail h => cases h

theorem mayRun_nameTreeRegistry {s : Script} (h : nameTreeRegistry.MayRun s) :
    ∃ v, s = .reply (.value v) := by
  obtain ⟨answer, hanswer, hcomes⟩ := h
  have hreply : ∃ v, answer = .reply (.value v) := by
    cases hanswer with
    | @helper name helper hlookup scope arguments =>
      by_cases hname : name = "wrap"
      · subst hname
        cases hlookup
        exact ⟨_, rfl⟩
      · rw [nameTreeRegistry, Registry.helper?_addHelper_of_ne _ _ hname] at hlookup
        cases hlookup
    | blockHelper hlookup => cases hlookup
  obtain ⟨v, rfl⟩ := hreply
  obtain rfl | ⟨s', hfollows, -⟩ := hcomes.cases_head
  · exact ⟨v, rfl⟩
  · cases hfollows

theorem isEscaped_of_reaches_nameTree {n : Node} (h : nameTreeRegistry.Reaches nameTree n) :
    n.IsEscaped := by
  cases h with
  | here h => exact isEscaped_of_occurs_nameTree h
  | @included _ name context? body _ hoffers h =>
    obtain hlookup | ⟨next, hruns⟩ := hoffers
    · by_cases hname : name = "tree"
      · subst hname
        cases hlookup
        exact isEscaped_of_occurs_nameTree h
      · change Registry.partial? (Registry.addPartial {} "tree" nameTree) name = _ at hlookup
        rw [Registry.partial?_addPartial_of_ne _ _ hname] at hlookup
        cases hlookup
    · obtain ⟨v, hv⟩ := mayRun_nameTreeRegistry hruns
      cases hv

/-- Names and notes that are full of markup. -/
def hostileNames : Value :=
  .keyed [("name", .text "<b onclick='x'>R&B</b>"), ("note", .text "\"quoted\""),
    ("below", .sequence [.keyed [("name", .text "</li>&lt;")], .boolean true])]

-- ════════════════════════════════════════════════════════════════════════
-- What is written
-- ════════════════════════════════════════════════════════════════════════

namespace Engine

/-- Where everything that can be reached leaves values to tags that escape, no data brings markup
into the output: what is written are texts of the template and escaped values, the markup is that
of the texts, and the ampersands of a value start entities. -/
theorem markup_comes_from_texts (e : Engine) (nodes : List Node)
    (hescape : e.config.escapeHtml = true)
    (hnodes : ∀ n, e.registry.Reaches nodes n → n.IsEscaped)
    (hscripts : ∀ s, e.registry.MayRun s → s.IsQuiet) (data : Value) (sink : Sink) :
    ∃ final, e.Renders nodes data sink final ∧
      (e.renderValue nodes data sink).sink =
        sink.append (final.outputs.written.map (Written.chunk true)) ∧
      (∀ w ∈ final.outputs.written,
        (∃ s, w = .static s ∧ e.registry.Reaches nodes (.text s)) ∨
          ∃ v, w = .interpolated v true ∧ StartEntities (w.chunk true).toList) ∧
      (String.join (final.outputs.written.map (Written.chunk true))).toList.filter isMarkup =
        (String.join (final.outputs.written.filterMap Written.text?)).toList.filter isMarkup ∧
      ((∀ s, e.registry.Reaches nodes (.text s) → ∀ c ∈ s.toList, isMarkup c = false) →
        ∀ c ∈ (String.join (final.outputs.written.map (Written.chunk true))).toList,
          isMarkup c = false) := by
  obtain ⟨final, hrenders⟩ := e.exists_renders nodes data sink
  have hwithin := within_reached hrenders.leads
  have hinert : ∀ w ∈ final.outputs.written, w.IsInert :=
    fun w hw => isInert_of_within hnodes hscripts (hwithin.written w hw)
  have hmarkup := Written.filter_isMarkup hinert
  refine ⟨final, hrenders, ?_, ?_, hmarkup, ?_⟩
  · rw [hrenders.renderValue_eq, main_of_leads hrenders.leads, hescape]
  · intro w hw
    cases hinert w hw with
    | static s => exact .inl ⟨s, rfl, hwithin.written _ hw⟩
    | interpolated v => exact .inr ⟨v, rfl, startEntities_escapeHtml v.display⟩
  · intro htexts c hc
    rw [String.toList_join, List.mem_flatMap] at hc
    obtain ⟨chunk, hchunk, hc⟩ := hc
    obtain ⟨w, hw, rfl⟩ := List.mem_map.1 hchunk
    cases hinert w hw with
    | static s => exact htexts s (hwithin.written _ hw) c hc
    | interpolated v => exact isMarkup_of_mem_escapeHtml hc

theorem markup_comes_from_texts_nameTree :
    nameTreeEngine.config.escapeHtml = true ∧
      (∀ n, nameTreeEngine.registry.Reaches nameTree n → n.IsEscaped) ∧
      (∀ s, nameTreeEngine.registry.MayRun s → s.IsQuiet) ∧
      ∃ final, nameTreeEngine.Renders nameTree hostileNames {} final ∧
        (nameTreeEngine.renderValue nameTree hostileNames {}).sink =
          Sink.append {} (final.outputs.written.map (Written.chunk true)) ∧
        (∀ w ∈ final.outputs.written,
          (∃ s, w = .static s ∧ nameTreeEngine.registry.Reaches nameTree (.text s)) ∨
            ∃ v, w = .interpolated v true ∧ StartEntities (w.chunk true).toList) ∧
        (String.join (final.outputs.written.map (Written.chunk true))).toList.filter isMarkup =
          (String.join (final.outputs.written.filterMap Written.text?)).toList.filter isMarkup ∧
        ((∀ s, nameTreeEngine.registry.Reaches nameTree (.text s) →
            ∀ c ∈ s.toList, isMarkup c = false) →
          ∀ c ∈ (String.join (final.outputs.written.map (Written.chunk true))).toList,
            isMarkup c = false) := by
  have hnodes : ∀ n, nameTreeEngine.registry.Reaches nameTree n → n.IsEscaped :=
    fun _ h => isEscaped_of_reaches_nameTree h
  have hscripts : ∀ s, nameTreeEngine.registry.MayRun s → s.IsQuiet := by
    intro s h
    obtain ⟨v, rfl⟩ := mayRun_nameTreeRegistry h
    trivial
  exact ⟨rfl, hnodes, hscripts,
    markup_comes_from_texts nameTreeEngine nameTree rfl hnodes hscripts hostileNames {}⟩

end Engine

end TextTemplate

import TextTemplate.Proofs.Render.Failing
import TextTemplate.Proofs.Render.Writing
import TextTemplate.Stock

/-!
# Sinks that refuse

A rendering asks its sink for nothing but to take chunks. So the same template rendered into another
sink goes the same way, step by step, as long as that sink takes what the first one took. Where it
refuses a chunk, and no helper keeps that to itself, the rendering fails without writing any more.

## Main definitions

- `Script.YieldsToRefusal` — a script that fails at once when a write is refused
- `Sink.Takes` — a sink that takes chunks in turn
- `Execution.into` — the same execution with another sink
-/

namespace TextTemplate

/-- A script that fails with a refusal as soon as it is told of it, by its own write or by a branch
that it renders to the output. -/
def Script.YieldsToRefusal : Script → Prop
  | write _ next | render _ _ next => next (some .write) = .fail .write
  | _ => True

theorem Script.EndsOnFault.yieldsToRefusal {s : Script} (h : s.EndsOnFault) :
    s.YieldsToRefusal := by
  cases h with
  | write _ hfault => exact hfault .write
  | render _ hfault => exact hfault .write
  | _ => trivial

namespace Sink

/-- A sink that takes chunks one after the other, and refuses none. -/
def Takes (s : Sink) : List String → Prop
  | [] => True
  | chunk :: chunks => s.accepts chunk = true ∧ (s.append [chunk]).Takes chunks

instance decidableTakes : (s : Sink) → (chunks : List String) → Decidable (s.Takes chunks)
  | _, [] => isTrue trivial
  | s, chunk :: chunks =>
    have := decidableTakes (s.append [chunk]) chunks
    inferInstanceAs (Decidable (s.accepts chunk = true ∧ (s.append [chunk]).Takes chunks))

theorem takes_append (s : Sink) (chunks more : List String) :
    s.Takes (chunks ++ more) ↔ s.Takes chunks ∧ (s.append chunks).Takes more := by
  induction chunks generalizing s with
  | nil => simp [Takes]
  | cons chunk chunks ih =>
    have happend : (s.append [chunk]).append chunks = s.append (chunk :: chunks) :=
      s.append_append [chunk] chunks
    simp only [List.cons_append, Takes, ih, happend, and_assoc]

/-- What a sink does not take has a first chunk that it refuses. -/
theorem exists_refused {s : Sink} {chunks : List String} (h : ¬ s.Takes chunks) :
    ∃ before refused later, chunks = before ++ refused :: later ∧ s.Takes before ∧
      (s.append before).accepts refused = false := by
  induction chunks generalizing s with
  | nil => exact absurd trivial h
  | cons chunk chunks ih =>
    by_cases haccepts : s.accepts chunk = true
    · obtain ⟨before, refused, later, rfl, htakes, hrefused⟩ :=
        ih fun htakes => h ⟨haccepts, htakes⟩
      rw [append_append] at hrefused
      exact ⟨chunk :: before, refused, later, rfl, ⟨haccepts, htakes⟩, hrefused⟩
    · exact ⟨[], chunk, chunks, rfl, trivial, by simpa using haccepts⟩

end Sink

-- ════════════════════════════════════════════════════════════════════════
-- The same execution into another sink
-- ════════════════════════════════════════════════════════════════════════

/-- The same outputs with another sink of the template. -/
def Outputs.into (o : Outputs) (sink : Sink) : Outputs :=
  { o with main := { o.main with sink } }

/-- What is rendered apart does not depend on the sink of the template. -/
theorem Outputs.put_into {o : Outputs} (h : o.apart ≠ []) (w : Written) (sink : Sink) :
    (o.into sink).put w = (o.put w).map (·.into sink) := by
  obtain ⟨main, written, _ | ⟨inner, apart⟩⟩ := o
  · exact absurd rfl h
  · simp only [into, put]
    cases inner.put w.piece <;> rfl

theorem Outputs.current_into {o : Outputs} (h : o.apart ≠ []) (sink : Sink) :
    (o.into sink).current = o.current := by
  obtain ⟨main, written, _ | ⟨inner, apart⟩⟩ := o
  · exact absurd rfl h
  · rfl

namespace Execution

variable {setting : Setting} {e e' : Execution}

/-- The same execution with another sink of the template. -/
def into (e : Execution) (sink : Sink) : Execution :=
  { e with outputs := e.outputs.into sink }

/-- A move does the same whatever the sink of the template, unless it writes to that sink or looks
at it. -/
theorem perform_into {move : Move}
    (h : e.outputs.apart ≠ [] ∨
      (∀ w first refused?, move ≠ .write w first refused?) ∧ ∀ next, move ≠ .collect next)
    (jobs : List Job) (sink : Sink) :
    (e.into sink).perform setting jobs move = (e.perform setting jobs move).into sink := by
  cases move with
  | write w first refused? =>
    obtain hapart | ⟨hwrite, -⟩ := h
    · simp only [perform, into, Outputs.put_into hapart]
      cases e.outputs.put w with
      | ok outputs => rfl
      | error fault => cases refused? <;> rfl
    · exact absurd rfl (hwrite w first refused?)
  | collect next =>
    obtain hapart | ⟨-, hcollect⟩ := h
    · simp only [perform, into, Outputs.current_into hapart]
      rfl
    · exact absurd rfl (hcollect next)
  | expand nodes data next =>
    simp only [perform, into, Render.captured]
    cases Render.attempt (setting.expand nodes data) ⟨⟨setting.config.escapeHtml, {}⟩, e.registry⟩
      <;> rfl
  | _ => rfl

theorem unwind_into {job : Job} (h : e.outputs.apart ≠ [] ∨ job.collects = false)
    (jobs : List Job) (halt : Halt) (sink : Sink) :
    (e.into sink).unwind jobs halt job = (e.unwind jobs halt job).into sink := by
  cases job with
  | collect role next =>
    obtain hapart | hcollects := h
    · cases halt with
      | fault fault =>
        simp only [unwind, into, Outputs.current_into hapart]
        rfl
      | exhausted => rfl
    · cases hcollects
  | _ => cases halt <;> rfl

/-- A step that writes nothing to the sink of the template is the same with another one. -/
theorem next_into (hbalanced : e.Balanced) (hnext : e.next setting = some e')
    (hoffers : ∀ w, ¬ e.Offers setting w) (sink : Sink) :
    (e.into sink).next setting = some (e'.into sink) := by
  obtain ⟨job, jobs, heq, hcases⟩ := next_cases hnext
  -- The end of what is rendered apart looks at the last output, which is then not the template's.
  have hwaits : e.outputs.apart ≠ [] ∨ job.collects = false := by
    by_cases hapart : e.outputs.apart = []
    · exact .inr (hbalanced.not_collects hapart (by rw [heq]; exact List.mem_cons_self))
    · exact .inl hapart
  obtain ⟨jobs', outputs, registry, halt?⟩ := e
  simp only at heq
  subst heq
  obtain ⟨hruns, rfl⟩ | ⟨halt, hhalt, rfl⟩ := hcases
  · simp only at hruns
    subst hruns
    refine congrArg some (perform_into ?_ jobs sink)
    by_cases hapart : outputs.apart = []
    · refine .inr ⟨?_, ?_⟩
      · intro w first refused? hmove
        exact hoffers w ⟨rfl, hapart, job, jobs, first, refused?, rfl, hmove⟩
      · intro next hmove
        obtain ⟨role, next, rfl⟩ := Job.comesFrom_of_move hmove
        obtain hapart' | hcollects := hwaits
        · exact hapart' hapart
        · cases hcollects
    · exact .inl hapart
  · simp only at hhalt
    subst hhalt
    exact congrArg some (unwind_into hwaits jobs halt sink)

/-- A step that writes to the sink of the template does so with any sink that takes the chunk. -/
theorem next_into_of_accepts {w : Written} (hoffers : e.Offers setting w)
    (hnext : e.next setting = some e')
    (hfree : e.outputs.main.sink.accepts (w.chunk e.outputs.main.escape) = true) {sink : Sink}
    (haccepts : sink.accepts (w.chunk e.outputs.main.escape) = true) :
    e'.outputs.written = e.outputs.written ++ [w] ∧
      (e.into sink).next setting =
        some (e'.into (sink.append [w.chunk e.outputs.main.escape])) := by
  obtain ⟨hruns, hapart, job, jobs, first, refused?, heq, hmove⟩ := hoffers
  obtain ⟨jobs', outputs, registry, halt?⟩ := e
  simp only at hruns hapart heq hfree haccepts
  subst hruns heq
  have hput : ∀ {s : Sink}, s.accepts (w.chunk outputs.main.escape) = true →
      (outputs.into s).put w = .ok { outputs with
        main := ⟨outputs.main.escape, s.append [w.chunk outputs.main.escape]⟩
        written := outputs.written ++ [w] } := by
    intro s hs
    rw [Outputs.put_of_apart_eq_nil (by exact hapart)]
    exact if_pos hs
  have hstep : ∀ {s : Sink}, s.accepts (w.chunk outputs.main.escape) = true →
      Execution.next setting ⟨job :: jobs, outputs.into s, registry, none⟩ =
        some ⟨first ++ jobs, { outputs with
          main := ⟨outputs.main.escape, s.append [w.chunk outputs.main.escape]⟩
          written := outputs.written ++ [w] }, registry, none⟩ := by
    intro s hs
    have hmove' : job.move setting.config registry
        (Execution.mk (job :: jobs) (outputs.into s) registry none).included.length =
          .write w first refused? := hmove
    simp only [next, hmove', perform, hput hs]
  have hself : outputs.into outputs.main.sink = outputs := rfl
  have hnext' := hstep hfree
  rw [hself, hnext, Option.some.injEq] at hnext'
  subst hnext'
  exact ⟨rfl, hstep haccepts⟩

/-- An execution that fails writes nothing any more. -/
theorem Failing.not_offers {fault : RenderError} (h : e.Failing fault) (w : Written) :
    ¬ e.Offers setting w := by
  rintro ⟨hruns, -, job, jobs, first, refused?, heq, hmove⟩
  cases h with
  | halted => cases hruns
  | script =>
    cases heq
    cases hmove

section

variable {b : Bounds} (hyields : ∀ s, b.scripts s → s.YieldsToRefusal)

include hyields

/-- Where nothing is rendered apart, all helpers pass a refusal on. -/
theorem passesOn_refusal (hbalanced : e.Balanced) (hapart : e.outputs.apart = [])
    (hwithin : e.Within b) : ∀ job ∈ e.jobs, job.PassesOn .write := by
  intro job hjob
  cases job with
  | resume role next =>
    obtain ⟨-, branch, scope, hs⟩ := hwithin.jobs _ hjob
    exact hyields _ hs
  | collect role next => cases hbalanced.not_collects hapart hjob
  | _ => trivial

/-- A step that writes a chunk to a sink that refuses it leads to a failure. -/
theorem next_into_of_refused {w : Written} (hoffers : e.Offers setting w)
    (hbalanced : e.Balanced) (hwithin : e.Within b) {sink : Sink}
    (hrefused : sink.accepts (w.chunk e.outputs.main.escape) = false) :
    ∃ failing, (e.into sink).next setting = some failing ∧ failing.Failing .write ∧
      (e.into sink).Leaves failing := by
  have hpasses := passesOn_refusal hyields hbalanced hoffers.direct hwithin
  obtain ⟨hruns, hapart, job, jobs, first, refused?, heq, hmove⟩ := hoffers
  rw [heq] at hpasses
  have hjob := hwithin.jobs job (by rw [heq]; exact List.mem_cons_self)
  obtain ⟨jobs', outputs, registry, halt?⟩ := e
  simp only at hruns hapart heq hrefused
  subst hruns heq
  have hput : (outputs.into sink).put w = .error .write := by
    rw [Outputs.put_of_apart_eq_nil (by exact hapart)]
    exact if_neg (by simpa [Outputs.into] using hrefused)
  have hmove' : job.move setting.config registry
      (Execution.mk (job :: jobs) (outputs.into sink) registry none).included.length =
        .write w first refused? := hmove
  simp only [into, next, hmove', perform, hput]
  obtain ⟨-, hjobs⟩ := List.forall_mem_cons.1 hpasses
  -- A node halts at once; a helper is told of the refusal, and fails with it.
  obtain ⟨rfl, rfl⟩ | ⟨role, piece, next, rfl⟩ := Job.comesFrom_of_move hmove
  · exact ⟨_, rfl, .halted hjobs, rfl, rfl, rfl⟩
  · cases hmove
    have hyield : next (some .write) = .fail .write := hyields _ hjob.2
    refine ⟨_, rfl, ?_, rfl, rfl, rfl⟩
    simp only [hyield, List.singleton_append]
    exact .script hjobs

end

/-- An execution goes the same way into another sink as long as that takes all that is written. -/
theorem Leads.into (hbalanced : e.Balanced) (hnone : e.outputs.written = [])
    (hlimit : e.outputs.main.sink.limit = none) (h : Leads setting e e') {sink : Sink}
    (htakes : sink.Takes (e'.outputs.written.map (Written.chunk e.outputs.main.escape))) :
    Leads setting (e.into sink)
      (e'.into (sink.append (e'.outputs.written.map (Written.chunk e.outputs.main.escape)))) := by
  -- On the run: what was written so far is taken too, and the last step writes one chunk or none.
  induction h with
  | refl =>
    simp only [hnone, List.map_nil, Sink.append_nil]
    exact .refl
  | @tail mid last hleads hnext ih =>
    obtain ⟨more, -, hmain⟩ := Leads.extends hleads
    have hescape : mid.outputs.main.escape = e.outputs.main.escape := by rw [hmain]
    have hfree : ∀ chunk, mid.outputs.main.sink.accepts chunk = true := by
      intro chunk
      rw [hmain]
      exact Sink.accepts_of_limit_eq_none (by exact hlimit) chunk
    by_cases hoffers : ∃ w, mid.Offers setting w
    · obtain ⟨w, hoffers⟩ := hoffers
      have hwritten := (next_into_of_accepts hoffers hnext (hfree _) (hfree _)).1
      rw [hwritten, List.map_append, Sink.takes_append] at htakes
      obtain ⟨htakes, haccepts, -⟩ := htakes
      rw [← hescape] at haccepts
      have hstep := (next_into_of_accepts hoffers hnext (hfree _) haccepts).2
      refine (ih htakes).tail ?_
      simp only [hescape, Sink.append_append] at hstep
      rw [hwritten, List.map_append, List.map_singleton]
      exact hstep
    · have hsame : last.outputs.written = mid.outputs.written :=
        (written_next hnext).resolve_right fun ⟨w, hw, _⟩ => hoffers ⟨w, hw⟩
      rw [hsame] at htakes ⊢
      exact (ih htakes).tail
        (next_into (hbalanced.leads hleads) hnext (fun w hw => hoffers ⟨w, hw⟩) _)

end Execution

-- ════════════════════════════════════════════════════════════════════════
-- A report
-- ════════════════════════════════════════════════════════════════════════

/-- What is registered for a report: a helper that writes, and a block helper that writes and
renders both branches. -/
def reportRegistry : Registry :=
  Registry.addBlockHelper (Registry.addHelper {} "emit" Stock.emit) "both" Stock.both

theorem endsOnFault_reportRegistry {answer : Script} (h : reportRegistry.Answers answer) :
    answer.EndsOnFault := by
  cases h with
  | @helper name helper hlookup scope arguments =>
    by_cases hname : name = "emit"
    · subst hname
      cases hlookup
      exact .put (.put (.put (.put (.put (.put (.put (.reply _)))))))
    · change Registry.helper? (Registry.addHelper {} "emit" Stock.emit) name = _ at hlookup
      rw [Registry.helper?_addHelper_of_ne _ _ hname] at hlookup
      cases hlookup
  | @blockHelper name helper hlookup scope arguments hasOther =>
    by_cases hname : name = "both"
    · subst hname
      cases hlookup
      exact .putBranch (.put (.putBranch (.put (.put (.reply _)))))
    · rw [reportRegistry, Registry.blockHelper?_addBlockHelper_of_ne _ _ hname] at hlookup
      cases hlookup

/-- An engine for reports. -/
def reportEngine : Engine :=
  ⟨{}, reportRegistry⟩

/-- A text, a call and a block that write, and a text behind them. -/
def reportNodes : List Node :=
  [.text "report: ",
    .call "emit" [.path ⟨[.current]⟩, .literal (.boolean true), .literal (.text ""),
      .literal (.text "none")] true,
    .block (.helper []) "both" [.text "main"] (some [.text "other"]), .text "end"]

/-- A sink with some text that takes no more than the beginning of a report. -/
def narrowSink : Sink :=
  ⟨"# ", some 24, []⟩

-- ════════════════════════════════════════════════════════════════════════
-- Templates
-- ════════════════════════════════════════════════════════════════════════

namespace Engine

open Execution

variable {e : Engine} {nodes : List Node} {value : Value} {sink : Sink} {final : Execution}

/-- A sink that takes all chunks of a rendering is left with these, and nothing else changes. -/
theorem render_of_takes (h : e.Renders nodes value {} final)
    (htakes : sink.Takes (final.outputs.written.map (Written.chunk e.config.escapeHtml))) :
    e.renderValue nodes value sink =
      ⟨final.outcome,
        sink.append (final.outputs.written.map (Written.chunk e.config.escapeHtml)),
        { e with registry := final.registry }⟩ := by
  have hleads := Leads.into (e.balanced_start nodes value {}) rfl rfl h.leads htakes
  have hrenders : e.Renders nodes value sink (final.into (sink.append
      (final.outputs.written.map (Written.chunk e.config.escapeHtml)))) := ⟨hleads, h.done⟩
  exact hrenders.renderValue_eq

section

variable (hyields : ∀ s, e.registry.MayRun s → s.YieldsToRefusal)

include hyields

/-- A rendering fails without writing any more as soon as its sink refuses a chunk. -/
theorem render_of_refused (h : e.Renders nodes value {} final) {before later : List String}
    {refused : String}
    (hlog : final.outputs.written.map (Written.chunk e.config.escapeHtml) =
      before ++ refused :: later)
    (htakes : sink.Takes before) (hrefused : (sink.append before).accepts refused = false) :
    (e.renderValue nodes value sink).outcome = .error (.fault .write) ∧
      (e.renderValue nodes value sink).sink = sink.append before := by
  obtain ⟨front, rest, hwritten, rfl, hrest⟩ := List.map_eq_append_iff.1 hlog
  obtain ⟨w, back, rfl, rfl, -⟩ := List.map_eq_cons_iff.1 hrest
  obtain ⟨mid, hmid, rfl, hoffers⟩ := Leads.exists_offers h.leads rfl hwritten
  have hescape : mid.outputs.main.escape = e.config.escapeHtml := by
    rw [main_of_leads hmid]
  have hbalanced := (e.balanced_start nodes value {}).leads hmid
  have hinto := Leads.into (e.balanced_start nodes value {}) rfl rfl hmid htakes
  obtain ⟨failing, hnext, hfailing, hleaves⟩ :=
    next_into_of_refused hyields hoffers hbalanced (within_reached hmid)
      (by rw [hescape]; exact hrefused)
  obtain ⟨final', hrenders⟩ := e.exists_renders nodes value sink
  obtain ⟨houtcome, hleaves'⟩ := hrenders.of_failing hinto hnext hfailing
  rw [hrenders.renderValue_eq]
  refine ⟨houtcome, ?_⟩
  simp only [hleaves'.main, hleaves.main]
  rfl

/-- Nothing is offered to a sink after it has refused a chunk. -/
theorem not_offers_of_refused {last later : Execution} {w : Written}
    (hlast : Leads e.setting (e.start nodes value sink) last) (hoffers : last.Offers e.setting w)
    (hrefused : last.outputs.main.sink.accepts (w.chunk e.config.escapeHtml) = false)
    (hlater : Relation.TransGen (fun e₁ e₂ => e₁.next e.setting = some e₂) last later)
    (w' : Written) : ¬ later.Offers e.setting w' := by
  have hescape : last.outputs.main.escape = e.config.escapeHtml := by
    rw [main_of_leads hlast]
  rw [← hescape] at hrefused
  obtain ⟨failing, hnext, hfailing, -⟩ := next_into_of_refused hyields hoffers
    ((e.balanced_start nodes value sink).leads hlast) (within_reached hlast) hrefused
  obtain ⟨after, hafter, hleads⟩ := Relation.TransGen.head'_iff.1 hlater
  have hself : last.into last.outputs.main.sink = last := rfl
  rw [hself, hafter, Option.some.injEq] at hnext
  subst hnext
  exact (hfailing.leads hleads).1.not_offers w'

end

/-- A rendering into a sink is the rendering into one that never refuses, cut off before the first
chunk that the sink refuses: nothing is written or offered after it. A chunk is a static text, a
value, or what a helper writes. -/
theorem render_cut_at_refusal (e : Engine) (nodes : List Node)
    (hyields : ∀ s, e.registry.MayRun s → s.YieldsToRefusal) (data : Except String Value)
    (sink : Sink) :
    (sink.Takes (e.render nodes data {}).sink.log →
      e.render nodes data sink =
        ⟨(e.render nodes data {}).outcome, sink.append (e.render nodes data {}).sink.log,
          (e.render nodes data {}).engine⟩) ∧
    (¬ sink.Takes (e.render nodes data {}).sink.log →
      ∃ before refused later, (e.render nodes data {}).sink.log = before ++ refused :: later ∧
        sink.Takes before ∧ (sink.append before).accepts refused = false ∧
        (e.render nodes data sink).outcome = .error (.fault .write) ∧
        (e.render nodes data sink).sink = sink.append before) ∧
    ∀ value, data = .ok value →
      (∃ final, e.Renders nodes value {} final ∧ (e.render nodes data {}).sink.log =
        final.outputs.written.map (Written.chunk e.config.escapeHtml)) ∧
      ∀ last w, Leads e.setting (e.start nodes value sink) last → last.Offers e.setting w →
        last.outputs.main.sink.accepts (w.chunk e.config.escapeHtml) = false →
        ∀ later, Relation.TransGen (fun e₁ e₂ => e₁.next e.setting = some e₂) last later →
          ∀ w', ¬ later.Offers e.setting w' := by
  cases data with
  | error message =>
    refine ⟨fun _ => rfl, fun h => absurd trivial h, ?_⟩
    intro value h
    cases h
  | ok value =>
    obtain ⟨final, hfinal⟩ := e.exists_renders nodes value {}
    have hlog : (e.render nodes (.ok value) {}).sink.log =
        final.outputs.written.map (Written.chunk e.config.escapeHtml) := by
      simp only [render, hfinal.renderValue_eq, main_of_leads hfinal.leads, Sink.log_append]
      rfl
    rw [hlog]
    refine ⟨?_, ?_, ?_⟩
    · intro htakes
      simp only [render, hfinal.renderValue_eq, render_of_takes hfinal htakes]
    · intro hrefuses
      obtain ⟨before, refused, later, hsplit, htakes, hrefused⟩ := Sink.exists_refused hrefuses
      exact ⟨before, refused, later, hsplit, htakes, hrefused,
        render_of_refused hyields hfinal hsplit htakes hrefused⟩
    · rintro value' ⟨⟩
      refine ⟨⟨final, hfinal, rfl⟩, ?_⟩
      intro last w hlast hoffers hrefused later hlater w'
      exact not_offers_of_refused hyields hlast hoffers hrefused hlater w'

theorem render_cut_at_refusal_report :
    (∀ s, reportEngine.registry.MayRun s → s.YieldsToRefusal) ∧
      ¬ narrowSink.Takes (reportEngine.render reportNodes (.ok (.text "<x>")) {}).sink.log ∧
      ∃ before refused later,
        (reportEngine.render reportNodes (.ok (.text "<x>")) {}).sink.log =
          before ++ refused :: later ∧
        narrowSink.Takes before ∧ (narrowSink.append before).accepts refused = false ∧
        (reportEngine.render reportNodes (.ok (.text "<x>")) narrowSink).outcome =
          .error (.fault .write) ∧
        (reportEngine.render reportNodes (.ok (.text "<x>")) narrowSink).sink =
          narrowSink.append before := by
  have hyields : ∀ s, reportEngine.registry.MayRun s → s.YieldsToRefusal := fun _ hs =>
    (Registry.endsOnFault_of_mayRun (fun _ h => endsOnFault_reportRegistry h) hs).yieldsToRefusal
  have hlog : (reportEngine.render reportNodes (.ok (.text "<x>")) {}).sink.log =
      ["report: ", "[<", "&lt;x&gt;", "|", "true", "|", "", ">]", "none", "main", "|", "other",
        "|", "[]", "end"] := by
    decide +kernel
  have hrefuses : ¬ narrowSink.Takes
      (reportEngine.render reportNodes (.ok (.text "<x>")) {}).sink.log := by
    rw [hlog]
    decide
  exact ⟨hyields, hrefuses, (render_cut_at_refusal reportEngine reportNodes hyields
    (.ok (.text "<x>")) narrowSink).2.1 hrefuses⟩

end Engine

end TextTemplate

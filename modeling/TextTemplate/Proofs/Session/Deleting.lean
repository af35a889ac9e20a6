import TextTemplate.Proofs.Render.Registering
import TextTemplate.Proofs.Session.Commuting

/-!
# Steps that leave no trace

A source that is rejected, and a rendering in which nothing is registered, leave the session as it
was, however the rendering ended. So all other steps are answered as if the step had not been taken.

## Main definitions

- `Session.RegistersNothing` — a step in whose rendering nothing is registered
-/

namespace TextTemplate

namespace Session

/-- A step in whose rendering, if it renders a template, nothing is registered. -/
def RegistersNothing (s : Session) (step : Step) : Prop :=
  ∀ id value sink t e, step = .render id (.ok value) sink → s.templates.lookup id = some t →
    s.families[t.family]? = some e → e.RegistersNothing t.nodes value sink

variable {s : Session} {step : Step}

/-- A step that is answered with a fault of its source leaves the session as it was. -/
theorem take_of_rejected {fault : ParseError} (h : (s.take step).1 = .rejected fault) :
    (s.take step).2 = s := by
  cases hrequest : step.request? with
  | some order =>
    obtain ⟨engine, request⟩ := order
    rw [take_of_request hrequest, onEngine] at h ⊢
    split at h
    · rfl
    · next number e _ =>
      cases hresolve : request.resolve s.nodes? e.config with
      | error answer => rfl
      | ok g =>
        rw [hresolve] at h
        cases h
  | none =>
    cases step with
    | addHelper | addBlockHelper | addPartial | addPartialSource => cases hrequest
    | newEngine id config => cases h
    | cloneEngine id engine =>
      simp only [take, onEngine] at h
      split at h <;> cases h
    | compile id source engine =>
      rw [take_compile] at h ⊢
      split at h
      · rfl
      · next family config _ =>
        cases hparse : parseTemplate config.maxBlockDepth source with
        | error fault => rfl
        | ok nodes =>
          rw [hparse] at h
          cases h
    | render id data sink =>
      simp only [take] at h
      split at h
      · cases h
      · split at h <;> cases h

/-- A rendering in which nothing is registered leaves the session as it was. -/
theorem take_render {id : String} {data : Except String Value} {sink : Sink}
    (hquiet : s.RegistersNothing (.render id data sink)) :
    (s.take (.render id data sink)).2 = s := by
  simp only [take]
  cases htemplate : s.templates.lookup id with
  | none => rfl
  | some t =>
    simp only
    cases hfamily : s.families[t.family]? with
    | none => rfl
    | some e =>
      cases data with
      | error message => exact setFamily_self hfamily
      | ok value =>
        obtain ⟨log, final, hlog, hdone⟩ := e.exists_records t.nodes value sink
        have hnil : log = [] := hquiet id value sink t e rfl htemplate hfamily log final hlog
        have hengine : (e.renderValue t.nodes value sink).engine = e := by
          rw [Engine.engine_renderValue hlog hdone, hnil]
          rfl
        simp only [Engine.render, hengine]
        exact setFamily_self hfamily

/-- Where the helpers of all families register nothing, no step does so while it renders. -/
theorem registersNothing_of_answers
    (h : ∀ e ∈ s.families, ∀ answer, e.registry.Answers answer → answer.RegistersNothing)
    (step : Step) : s.RegistersNothing step := by
  intro id value sink t e _ _ hfamily
  exact Engine.registersNothing_of_answers (h e (List.mem_of_getElem? hfamily)) _ _ _

/-- A step that was answered with a fault of its source, or that rendered a template without
registering anything, may be left out: the session is the same after it, and all other answers
are. -/
theorem failed_steps_leave_no_trace (s : Session) (earlier later : List Step) (step : Step)
    (hquiet : (s.after earlier).RegistersNothing step)
    (hstep : (∃ fault, ((s.after earlier).take step).1 = .rejected fault) ∨
      ∃ id data sink, step = .render id data sink) :
    ((s.after earlier).take step).2 = s.after earlier ∧
      s.run (earlier ++ step :: later) =
        s.run earlier ++ ((s.after earlier).take step).1 :: (s.after earlier).run later ∧
      s.run (earlier ++ later) = s.run earlier ++ (s.after earlier).run later := by
  have hsame : ((s.after earlier).take step).2 = s.after earlier := by
    obtain ⟨fault, hrejected⟩ | ⟨id, data, sink, rfl⟩ := hstep
    · exact take_of_rejected hrejected
    · exact take_render hquiet
  refine ⟨hsame, ?_, run_append s earlier later⟩
  rw [run_append, run, hsame]

/-- A call of a helper between two texts. -/
def callSource : String :=
  "<\x7b\x7bmark 1\x7d\x7d>"

/-- A template, and a helper that fails. -/
def failingSteps : List Step :=
  [.addHelper "mark" (fun _ => Stock.failing) .own, .compile "page" callSource .own]

theorem registersNothing_of_answers_failing {answer : Script}
    (h : (Registry.addHelper {} "mark" fun _ => Stock.failing).Answers answer) :
    answer.RegistersNothing := by
  cases h with
  | @helper name helper hlookup scope arguments =>
    by_cases hname : name = "mark"
    · subst hname
      cases hlookup
      intro fault?
      cases fault? <;> trivial
    · rw [Registry.helper?_addHelper_of_ne _ _ hname] at hlookup
      cases hlookup
  | blockHelper hlookup => cases hlookup

theorem failed_steps_leave_no_trace_call :
    (start.after failingSteps).RegistersNothing (.render "page" (.ok .null) {}) ∧
      (start.run (failingSteps ++ .render "page" (.ok .null) {} ::
          [.addHelper "mark" (Stock.const (.text "!")) .own,
            .render "page" (.ok .null) {}])).map Answer.text? =
        [none, none, none, none, some "<!>"] ∧
      ((start.after failingSteps).take (.render "page" (.ok .null) {})).2 =
        start.after failingSteps ∧
      start.run (failingSteps ++ .render "page" (.ok .null) {} ::
          [.addHelper "mark" (Stock.const (.text "!")) .own, .render "page" (.ok .null) {}]) =
        start.run failingSteps ++ ((start.after failingSteps).take
          (.render "page" (.ok .null) {})).1 :: (start.after failingSteps).run
            [.addHelper "mark" (Stock.const (.text "!")) .own, .render "page" (.ok .null) {}] := by
  have hquiet : (start.after failingSteps).RegistersNothing (.render "page" (.ok .null) {}) := by
    refine registersNothing_of_answers ?_ _
    have hfamilies : (start.after failingSteps).families =
        [{ registry := Registry.addHelper {} "mark" fun _ => Stock.failing }, {}] :=
      (agrees_take_compile _ "page" callSource .own).families
    rw [hfamilies]
    refine List.forall_mem_cons.2 ⟨fun _ => registersNothing_of_answers_failing, ?_⟩
    refine List.forall_mem_singleton.2 ?_
    rintro answer (⟨hlookup, _, _⟩ | ⟨hlookup, _, _, _⟩) <;> cases hlookup
  obtain ⟨hsame, hrun, -⟩ := failed_steps_leave_no_trace start failingSteps
    [.addHelper "mark" (Stock.const (.text "!")) .own, .render "page" (.ok .null) {}]
    (.render "page" (.ok .null) {}) hquiet (.inr ⟨_, _, _, rfl⟩)
  exact ⟨hquiet, by decide +kernel, hsame, hrun⟩

end Session

end TextTemplate

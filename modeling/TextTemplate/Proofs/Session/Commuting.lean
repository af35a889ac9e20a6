import TextTemplate.Proofs.Session.Rows
import TextTemplate.Stock

/-!
# Compilation and registration commute

A compilation reads the choices of an engine, which no registration changes, and adds a template,
which no registration asks for but under its id. So it makes no difference whether a template is
compiled before or after something is registered, and a partial stays as it is when the template
that it was made of is compiled anew.

## Main definitions

- `Step.RegistersApartFrom` — a step that registers something, but not from the template of an id
- `Session.AgreesApartFrom` — sessions that differ in what stands under an id
-/

namespace TextTemplate

/-- A step that asks to register a helper, a block helper or a partial, but not from the template of
an id. -/
def Step.RegistersApartFrom (id : String) (step : Step) : Prop :=
  step.request?.isSome ∧ step.template? ≠ some id

namespace Session

/-- Sessions that differ only in what templates stand under an id. -/
structure AgreesApartFrom (id : String) (s s' : Session) : Prop where
  engines : s'.engines = s.engines
  families : s'.families = s.families
  templates : ∀ other, other ≠ id → s'.templates.lookup other = s.templates.lookup other

variable {s s' : Session} {id source : String} {engine : EngineName} {step : Step}

/-- A step that asks for another template is answered alike, and leaves no other difference. -/
theorem AgreesApartFrom.take (h : AgreesApartFrom id s s') (hstep : step.template? ≠ some id) :
    (s'.take step).1 = (s.take step).1 ∧ AgreesApartFrom id (s.take step).2 (s'.take step).2 := by
  obtain ⟨families, engines, templates⟩ := s
  obtain ⟨families', engines', templates'⟩ := s'
  obtain ⟨hengines, hfamilies, htemplates⟩ := h
  simp only at hengines hfamilies htemplates
  subst hengines hfamilies
  have hother : ∀ other, step.template? = some other →
      templates'.lookup other = templates.lookup other :=
    fun other hother => htemplates other fun heq => hstep (heq ▸ hother)
  have hfamily : ∀ name, family? ⟨families', engines', templates'⟩ name =
      family? ⟨families', engines', templates⟩ name := fun _ => rfl
  cases step with
  | newEngine id config => exact ⟨rfl, rfl, rfl, htemplates⟩
  | cloneEngine id engine | addHelper name helper engine | addBlockHelper name helper engine =>
    simp only [Session.take, onEngine, hfamily]
    cases family? ⟨families', engines', templates⟩ engine <;> exact ⟨rfl, rfl, rfl, htemplates⟩
  | compile id' source engine =>
    simp only [Session.take, onEngine, hfamily]
    cases family? ⟨families', engines', templates⟩ engine with
    | none => exact ⟨rfl, rfl, rfl, htemplates⟩
    | some place =>
      simp only
      cases place.2.compile source with
      | error fault => exact ⟨rfl, rfl, rfl, htemplates⟩
      | ok nodes =>
        refine ⟨rfl, rfl, rfl, fun other hne => ?_⟩
        simp only [List.lookup_cons, htemplates other hne]
  | addPartial name id' engine =>
    simp only [Session.take, onEngine, hfamily, hother id' rfl]
    cases family? ⟨families', engines', templates⟩ engine with
    | none => exact ⟨rfl, rfl, rfl, htemplates⟩
    | some place => cases templates.lookup id' <;> exact ⟨rfl, rfl, rfl, htemplates⟩
  | addPartialSource name source engine =>
    simp only [Session.take, onEngine, hfamily]
    cases family? ⟨families', engines', templates⟩ engine with
    | none => exact ⟨rfl, rfl, rfl, htemplates⟩
    | some place =>
      simp only
      cases place.2.addPartialSource name source <;> exact ⟨rfl, rfl, rfl, htemplates⟩
  | render id' data sink =>
    simp only [Session.take, hother id' rfl]
    cases templates.lookup id' with
    | none => exact ⟨rfl, rfl, rfl, htemplates⟩
    | some t =>
      simp only
      cases families'[t.family]? <;> exact ⟨rfl, rfl, rfl, htemplates⟩

/-- Steps that ask for other templates are answered alike. -/
theorem AgreesApartFrom.run (h : AgreesApartFrom id s s') {steps : List Step}
    (hsteps : ∀ step ∈ steps, step.template? ≠ some id) : s'.run steps = s.run steps := by
  induction steps generalizing s s' with
  | nil => rfl
  | cons step steps ih =>
    obtain ⟨hstep, hsteps⟩ := List.forall_mem_cons.1 hsteps
    obtain ⟨hanswer, hagrees⟩ := h.take hstep
    simp only [Session.run, hanswer, ih hagrees hsteps]

/-- A compilation changes nothing but what stands under its id. -/
theorem agrees_take_compile (s : Session) (id source : String) (engine : EngineName) :
    AgreesApartFrom id s (s.take (.compile id source engine)).2 := by
  obtain heq | ⟨template, heq⟩ := take_compile_cases s id source engine
  · rw [heq]
    exact ⟨rfl, rfl, fun _ _ => rfl⟩
  · rw [heq]
    refine ⟨rfl, rfl, fun other hne => ?_⟩
    simp only [List.lookup_cons, beq_false_of_ne hne]

/-- A registration changes neither names nor templates, nor the choices of a family. -/
theorem take_of_isSome_request (h : step.request?.isSome) (s : Session) :
    ∃ families, (s.take step).2 = { s with families } ∧
      families.map Engine.config = s.families.map Engine.config := by
  obtain ⟨⟨engine, request⟩, hrequest⟩ := Option.isSome_iff_exists.1 h
  rw [take_of_request hrequest, onEngine]
  cases hfamily : s.family? engine with
  | none => exact ⟨s.families, rfl, rfl⟩
  | some place =>
    obtain ⟨number, e⟩ := place
    simp only
    cases request.resolve s.nodes? e.config with
    | error answer => exact ⟨s.families, rfl, rfl⟩
    | ok g => exact ⟨_, rfl, map_config_set (getElem?_of_family? hfamily) rfl⟩

/-- A compilation is answered alike after a registration, and both lead to one session in either
order. -/
theorem take_comm (hstep : step.RegistersApartFrom id) (s : Session) (source : String)
    (engine : EngineName) :
    ((s.take (.compile id source engine)).2.take step).1 = (s.take step).1 ∧
      ((s.take step).2.take (.compile id source engine)).1 =
        (s.take (.compile id source engine)).1 ∧
      ((s.take (.compile id source engine)).2.take step).2 =
        ((s.take step).2.take (.compile id source engine)).2 := by
  obtain ⟨hanswer, hagrees⟩ := (agrees_take_compile s id source engine).take hstep.2
  obtain ⟨families, hafter, hconfigs⟩ := take_of_isSome_request hstep.1 s
  obtain ⟨families', hafter', -⟩ :=
    take_of_isSome_request hstep.1 (s.take (.compile id source engine)).2
  have hfamilies : families' = families := by
    have heq := hagrees.families
    rwa [hafter', hafter] at heq
  have hplace : { s with families }.place? engine = s.place? engine := by
    refine place?_congr ?_ ?_ engine
    · rfl
    · exact hconfigs
  refine ⟨hanswer, ?_, ?_⟩
  · rw [hafter, take_compile, take_compile, hplace]
    cases s.place? engine with
    | none => rfl
    | some place =>
      simp only
      cases parseTemplate place.2.maxBlockDepth source <;> rfl
  · rw [hafter', hafter, hfamilies, take_compile, take_compile, hplace]
    cases s.place? engine with
    | none => rfl
    | some place =>
      simp only
      cases parseTemplate place.2.maxBlockDepth source <;> rfl

/-- A compilation moves behind a row of registrations. -/
theorem run_compile_comm {row : List Step} (hrow : ∀ step ∈ row, step.RegistersApartFrom id)
    (s : Session) (source : String) (engine : EngineName) :
    (s.take (.compile id source engine)).2.run row = s.run row ∧
      ((s.after row).take (.compile id source engine)).1 =
        (s.take (.compile id source engine)).1 ∧
      (s.take (.compile id source engine)).2.after row =
        ((s.after row).take (.compile id source engine)).2 := by
  induction row generalizing s with
  | nil => exact ⟨rfl, rfl, rfl⟩
  | cons step row ih =>
    obtain ⟨hstep, hrow⟩ := List.forall_mem_cons.1 hrow
    obtain ⟨hanswer, hcompile, hsame⟩ := take_comm hstep s source engine
    obtain ⟨hanswers, hcompile', hsame'⟩ := ih hrow (s.take step).2
    simp only [run, after, hanswer, hsame, hanswers, hsame', true_and, and_true]
    exact hcompile'.trans hcompile

/-- A template is compiled before or after a row of registrations, or anew: the answers are the same
in their order, and nothing that was registered changes. -/
theorem compilation_commutes (s : Session) (earlier : List Step) (id source : String)
    (engine : EngineName) (row later : List Step)
    (hrow : ∀ step ∈ row, step.RegistersApartFrom id) :
    (∃ answers,
      s.run (earlier ++ .compile id source engine :: (row ++ later)) =
        s.run earlier ++ ((s.after earlier).take (.compile id source engine)).1 ::
          ((s.after earlier).run row ++ answers) ∧
      s.run (earlier ++ (row ++ .compile id source engine :: later)) =
        s.run earlier ++ ((s.after earlier).run row ++
          ((s.after earlier).take (.compile id source engine)).1 :: answers)) ∧
    ((s.after earlier).take (.compile id source engine)).2.families =
      (s.after earlier).families ∧
    ∀ apart : List Step, (∀ step ∈ apart, step.template? ≠ some id) →
      s.run (earlier ++ .compile id source engine :: apart) =
        s.run earlier ++ ((s.after earlier).take (.compile id source engine)).1 ::
          (s.after earlier).run apart := by
  have hagrees := agrees_take_compile (s.after earlier) id source engine
  obtain ⟨hanswers, hcompile, hsame⟩ := run_compile_comm hrow (s.after earlier) source engine
  refine ⟨⟨(((s.after earlier).after row).take (.compile id source engine)).2.run later, ?_, ?_⟩,
    hagrees.families, fun apart hapart => ?_⟩
  · simp only [run_append, run, hanswers, hsame]
  · simp only [run_append, run, hcompile]
  · simp only [run_append, run, hagrees.run hapart]

/-- A section under a name that a block helper may be registered under. -/
def sectionSource : String :=
  "\x7b\x7b#mark\x7d\x7dx\x7b\x7b/mark\x7d\x7d"

theorem compilation_commutes_section :
    (∀ step ∈ [Step.addBlockHelper "mark" (Stock.constBlock "!") .own],
        step.RegistersApartFrom "page") ∧
      (start.run ([] ++ .compile "page" sectionSource .own ::
          ([.addBlockHelper "mark" (Stock.constBlock "!") .own] ++
            [.render "page" (.ok .null) {}]))).map Answer.text? = [none, none, some "!"] ∧
      ∃ answers,
        start.run ([] ++ .compile "page" sectionSource .own ::
            ([.addBlockHelper "mark" (Stock.constBlock "!") .own] ++
              [.render "page" (.ok .null) {}])) =
          start.run [] ++ ((start.after []).take (.compile "page" sectionSource .own)).1 ::
            ((start.after []).run [.addBlockHelper "mark" (Stock.constBlock "!") .own] ++ answers) ∧
        start.run ([] ++ ([.addBlockHelper "mark" (Stock.constBlock "!") .own] ++
            .compile "page" sectionSource .own :: [.render "page" (.ok .null) {}])) =
          start.run [] ++
            ((start.after []).run [.addBlockHelper "mark" (Stock.constBlock "!") .own] ++
              ((start.after []).take (.compile "page" sectionSource .own)).1 :: answers) := by
  have hrow : ∀ step ∈ [Step.addBlockHelper "mark" (Stock.constBlock "!") .own],
      step.RegistersApartFrom "page" := by
    intro step hstep
    rw [List.mem_singleton.1 hstep]
    exact ⟨rfl, by simp [Step.template?]⟩
  exact ⟨hrow, by decide +kernel, (compilation_commutes start [] "page" sectionSource .own _
    [.render "page" (.ok .null) {}] hrow).1⟩

end Session

end TextTemplate

import TextTemplate.Proofs.Registration
import TextTemplate.Proofs.Render.Reach
import TextTemplate.Proofs.Render.Writing

/-!
# What a rendering registers

Helpers register things while a template is rendered, and so do the helpers of the templates that
are rendered for them, inside one another. All of it is recorded in order, and what the registry
holds at any point, also inside such a template, is what it held at the start and the record up to
there.

## Main definitions

- `Execution.Records` — an execution comes to another one, with a record of what was registered
- `Execution.Passes` — the same for all points, those inside templates of helpers among them
- `Engine.RegistersNothing` — a rendering with nothing in its record
-/

namespace TextTemplate

/-- The registration that a job is about to make. -/
def Job.registration? : Job → Option Registration
  | script _ (.defineHelper name helper _) => some (.helper name helper)
  | script _ (.defineBlockHelper name helper _) => some (.blockHelper name helper)
  | script _ (.definePartial name body _) => some (.nodes name body)
  | _ => none

/-- The template of its own that a job is about to render for a helper. -/
def Job.expansion? : Job → Option (List Node × Value)
  | script _ (.expand body data _) => some (body, data)
  | _ => none

/-- How templates are rendered where some more may be rendered inside one another. -/
def Setting.nested (config : Config) (expansions : Nat) : Setting :=
  ⟨config, renderTemplate config expansions⟩

namespace Execution

/-- The registration that an execution is about to make. -/
def registration? (e : Execution) : Option Registration :=
  match e.halt?, e.jobs with
  | none, job :: _ => job.registration?
  | _, _ => none

/-- The template of its own that an execution is about to render for a helper. -/
def expansion? (e : Execution) : Option (List Node × Value) :=
  match e.halt?, e.jobs with
  | none, job :: _ => job.expansion?
  | _, _ => none

/-- The execution that renders a template. -/
def ofTemplate (config : Config) (registry : Registry) (nodes : List Node) (data : Value)
    (sink : Sink) : Execution where
  jobs := [.nodes nodes (.root data)]
  outputs := { main := ⟨config.escapeHtml, sink⟩ }
  registry

variable (config : Config)

/-- An execution comes to another one, and on the way some things are registered, in order. A
template that is rendered for a helper adds what is registered up to its end, unless too many are
being rendered inside one another. -/
inductive Records : Nat → Execution → List Registration → Execution → Prop
  | refl {expansions : Nat} {e : Execution} : Records expansions e [] e
  | step {expansions : Nat} {e mid e' : Execution} {log : List Registration}
      (h : Records expansions e log mid) (hexpansion : mid.expansion? = none)
      (hnext : mid.next (.nested config expansions) = some e') :
      Records expansions e (log ++ mid.registration?.toList) e'
  | expand {expansions : Nat} {e mid final e' : Execution} {log inner : List Registration}
      {nodes : List Node} {data : Value} (h : Records (expansions + 1) e log mid)
      (hexpansion : mid.expansion? = some (nodes, data))
      (hinner : Records expansions (ofTemplate config mid.registry nodes data {}) inner final)
      (hdone : final.jobs = [])
      (hnext : mid.next (.nested config (expansions + 1)) = some e') :
      Records (expansions + 1) e (log ++ inner) e'
  | exhaust {e mid e' : Execution} {log : List Registration} (h : Records 0 e log mid)
      (hexpansion : mid.expansion?.isSome) (hnext : mid.next (.nested config 0) = some e') :
      Records 0 e log e'

/-- An execution passes a point, also one inside a template that is rendered for a helper, and on
the way some things are registered, in order. -/
inductive Passes : Nat → Execution → List Registration → Execution → Prop
  | here {expansions : Nat} {e point : Execution} {log : List Registration}
      (h : Records config expansions e log point) : Passes expansions e log point
  | inside {expansions : Nat} {e mid point : Execution} {log inner : List Registration}
      {nodes : List Node} {data : Value} (h : Records config (expansions + 1) e log mid)
      (hexpansion : mid.expansion? = some (nodes, data))
      (hinner : Passes expansions (ofTemplate config mid.registry nodes data {}) inner point) :
      Passes (expansions + 1) e (log ++ inner) point

end Execution

-- ════════════════════════════════════════════════════════════════════════
-- Steps
-- ════════════════════════════════════════════════════════════════════════

/-- A move that leaves the registry as it is. -/
def Move.KeepsRegistry : Move → Prop
  | register _ _ | expand _ _ _ => False
  | go _ | write _ _ _ | apart _ _ | collect _ | fail _ => True

section

variable (config : Config) (registry : Registry) (depth : Nat)

theorem BlockKind.keepsRegistry_move (name : String) (consequent alternate : List Node)
    (hasOther : Bool) (scope : Scope) (kind : BlockKind) :
    (kind.move registry name consequent alternate hasOther scope).KeepsRegistry := by
  have hstep := kind.step_move registry name consequent alternate hasOther scope
  generalize kind.move registry name consequent alternate hasOther scope = move at hstep ⊢
  cases hstep <;> trivial

theorem Node.keepsRegistry_move (scope : Scope) (n : Node) :
    (n.move config registry depth scope).KeepsRegistry := by
  cases n with
  | text | literal => trivial
  | path p escaped | call name arguments escaped =>
    simp only [Node.move]
    split <;> trivial
  | block kind name consequent alternate? => exact BlockKind.keepsRegistry_move _ _ _ _ _ _ _
  | partialRef name context? =>
    simp only [Node.move]
    split
    · split <;> trivial
    · trivial

theorem Role.keepsRegistry_finish (role : Role) (reply : Reply) :
    (role.finish reply).KeepsRegistry := by
  cases role with
  | block consequent alternate => trivial
  | call escaped => cases reply <;> trivial

/-- A job that makes no registration and renders no template of its own leaves the registry as it
is. -/
theorem Job.keepsRegistry_move {job : Job} (hregistration : job.registration? = none)
    (hexpansion : job.expansion? = none) :
    (job.move config registry depth).KeepsRegistry := by
  cases job with
  | nodes ns scope => cases ns <;> trivial
  | node n scope => exact Node.keepsRegistry_move config registry depth scope n
  | each body scopes => cases scopes <;> trivial
  | leave | resume | collect => trivial
  | script role s =>
    cases s with
    | reply r => exact role.keepsRegistry_finish r
    | expand => cases hexpansion
    | defineHelper | defineBlockHelper | definePartial => cases hregistration
    | fail | write | render | capture | compile => trivial

end

/-- A job that makes a registration does nothing else. -/
theorem Job.move_of_registration? {config : Config} {registry : Registry} {depth : Nat} {job : Job}
    {g : Registration} (h : job.registration? = some g) :
    ∃ jobs, job.move config registry depth = .register (·.add g) jobs := by
  cases job with
  | script role s =>
    cases s with
    | defineHelper | defineBlockHelper | definePartial =>
      cases h
      exact ⟨_, rfl⟩
    | _ => cases h
  | _ => cases h

theorem Job.eq_of_expansion? {job : Job} {nodes : List Node} {data : Value}
    (h : job.expansion? = some (nodes, data)) :
    ∃ role next, job = .script role (.expand nodes data next) := by
  cases job with
  | script role s =>
    cases s with
    | expand =>
      cases h
      exact ⟨_, _, rfl⟩
    | _ => cases h
  | _ => cases h

namespace Execution

variable {config : Config} {setting : Setting} {expansions : Nat} {e e' mid point final : Execution}
  {log : List Registration} {nodes : List Node} {data : Value}

theorem registry_perform {move : Move} (h : move.KeepsRegistry) (jobs : List Job) :
    (e.perform setting jobs move).registry = e.registry := by
  cases move with
  | register | expand => exact h.elim
  | write w first refused? =>
    simp only [perform]
    split <;> rfl
  | go | apart | collect | fail => rfl

theorem registry_unwind (jobs : List Job) (halt : Halt) (job : Job) :
    (e.unwind jobs halt job).registry = e.registry := by
  cases job <;> cases halt <;> rfl

/-- A step makes the registration that it is about to make, and no other. -/
theorem registry_next (hexpansion : e.expansion? = none) (hnext : e.next setting = some e') :
    e'.registry = e.registry.record e.registration?.toList := by
  obtain ⟨job, jobs, heq, ⟨hruns, rfl⟩ | ⟨halt, hhalt, rfl⟩⟩ := next_cases hnext
  · simp only [expansion?, registration?, heq, hruns] at hexpansion ⊢
    cases hregistration : job.registration? with
    | none => exact registry_perform (Job.keepsRegistry_move _ _ _ hregistration hexpansion) jobs
    | some g =>
      obtain ⟨first, hmove⟩ := Job.move_of_registration? hregistration
      rw [hmove]
      rfl
  · simp only [registration?, hhalt]
    exact registry_unwind jobs halt job

/-- A template that is rendered for a helper registers what its own execution does. -/
theorem registry_of_expansion (hexpansion : e.expansion? = some (nodes, data))
    (hinner : Leads (.nested config expansions) (ofTemplate config e.registry nodes data {}) final)
    (hdone : final.jobs = []) (hnext : e.next (.nested config (expansions + 1)) = some e') :
    e'.registry = final.registry := by
  obtain ⟨written, hleads⟩ := carries_template config expansions nodes data
    { main := ⟨config.escapeHtml, {}⟩ } e.registry [] rfl
  -- Both executions have no jobs left, so they are the same one.
  have hfinal : final.registry =
      (Render.left (renderTemplate config (expansions + 1) nodes data
        ⟨⟨config.escapeHtml, {}⟩, e.registry⟩)).registry := by
    have hsame := hinner.final hleads
    simp only [Outputs.current] at hsame
    cases hresult : renderTemplate config (expansions + 1) nodes data
        ⟨⟨config.escapeHtml, {}⟩, e.registry⟩ with
    | ok _ stage | error _ stage =>
      rw [hresult] at hsame
      rw [← eq_of_leads_of_jobs (hsame rfl) hdone]
      rfl
  obtain ⟨job, jobs, heq, ⟨hruns, rfl⟩ | ⟨halt, hhalt, rfl⟩⟩ := next_cases hnext
  · simp only [expansion?, heq, hruns] at hexpansion
    obtain ⟨role, next, rfl⟩ := Job.eq_of_expansion? hexpansion
    rw [hfinal]
    simp only [Job.move, Script.move, perform, Setting.nested]
    obtain ⟨c, hc⟩ | hc := Render.captured_cases config.escapeHtml
      (renderTemplate config (expansions + 1) nodes data) ⟨e.outputs.current, e.registry⟩
    all_goals rw [hc]
  · simp only [expansion?, hhalt] at hexpansion
    cases hexpansion

/-- Where no template may be rendered for a helper, none registers anything. -/
theorem registry_of_exhausted (hexpansion : e.expansion?.isSome)
    (hnext : e.next (.nested config 0) = some e') : e'.registry = e.registry := by
  obtain ⟨⟨nodes, data⟩, hexpansion⟩ := Option.isSome_iff_exists.1 hexpansion
  obtain ⟨job, jobs, heq, ⟨hruns, rfl⟩ | ⟨halt, hhalt, rfl⟩⟩ := next_cases hnext
  · simp only [expansion?, heq, hruns] at hexpansion
    obtain ⟨role, next, rfl⟩ := Job.eq_of_expansion? hexpansion
    rfl
  · simp only [expansion?, hhalt] at hexpansion
    cases hexpansion

-- ════════════════════════════════════════════════════════════════════════
-- Runs
-- ════════════════════════════════════════════════════════════════════════

theorem Records.leads (h : Records config expansions e log e') :
    Leads (.nested config expansions) e e' := by
  induction h with
  | refl => exact .refl
  | step _ _ hnext ih => exact ih.tail hnext
  | expand _ _ _ _ hnext ih _ => exact ih.tail hnext
  | exhaust _ _ hnext ih => exact ih.tail hnext

/-- The registry holds what it held and all that was registered since. -/
theorem Records.registry (h : Records config expansions e log e') :
    e'.registry = e.registry.record log := by
  induction h with
  | refl => rfl
  | step _ hexpansion hnext ih =>
    rw [registry_next hexpansion hnext, ih, Registry.record_append]
  | expand _ hexpansion hinner hdone hnext ih ihInner =>
    rw [registry_of_expansion hexpansion hinner.leads hdone hnext, ihInner,
      Registry.record_append, ← ih]
    rfl
  | exhaust _ hexpansion hnext ih => rw [registry_of_exhausted hexpansion hnext, ih]

/-- Whatever an execution comes to, there is a record of what was registered on the way. -/
theorem Leads.exists_records (h : Leads (.nested config expansions) e e') :
    ∃ log, Records config expansions e log e' := by
  induction expansions generalizing e e' with
  | zero =>
    induction h with
    | refl => exact ⟨[], .refl⟩
    | @tail mid e' _ hnext ih =>
      obtain ⟨log, hlog⟩ := ih
      cases hexpansion : mid.expansion? with
      | none => exact ⟨_, hlog.step hexpansion hnext⟩
      | some expansion => exact ⟨_, hlog.exhaust (by rw [hexpansion]; rfl) hnext⟩
  | succ expansions ihExpansions =>
    induction h with
    | refl => exact ⟨[], .refl⟩
    | @tail mid e' _ hnext ih =>
      obtain ⟨log, hlog⟩ := ih
      cases hexpansion : mid.expansion? with
      | none => exact ⟨_, hlog.step hexpansion hnext⟩
      | some expansion =>
        obtain ⟨nodes, data⟩ := expansion
        obtain ⟨written, hleads⟩ := carries_template config expansions nodes data
          { main := ⟨config.escapeHtml, {}⟩ } mid.registry [] rfl
        obtain ⟨inner, hinner⟩ := ihExpansions hleads
        refine ⟨_, hlog.expand hexpansion hinner ?_ hnext⟩
        cases renderTemplate config (expansions + 1) nodes data _ <;> rfl

theorem Passes.registry (h : Passes config expansions e log point) :
    point.registry = e.registry.record log := by
  induction h with
  | here h => exact h.registry
  | inside h _ _ ih =>
    rw [ih, Registry.record_append, ← h.registry]
    rfl

/-- The output of a template escapes as the engine does, and so do those of templates that are
rendered for helpers. -/
theorem Passes.escape (h : Passes config expansions e log point)
    (he : e.outputs.main.escape = config.escapeHtml) :
    point.outputs.main.escape = config.escapeHtml := by
  induction h with
  | here h =>
    obtain ⟨more, -, hmain⟩ := h.leads.extends
    rw [hmain]
    exact he
  | inside _ _ _ ih => exact ih rfl

end Execution

-- ════════════════════════════════════════════════════════════════════════
-- Templates
-- ════════════════════════════════════════════════════════════════════════

namespace Engine

open Execution

variable {e : Engine} {nodes : List Node} {data : Value} {sink : Sink} {reached final : Execution}
  {log : List Registration}

/-- The rendering of a template comes to an execution, and registers some things on the way. -/
def Records (e : Engine) (nodes : List Node) (data : Value) (sink : Sink)
    (log : List Registration) (reached : Execution) : Prop :=
  Execution.Records e.config (maxExpansions - 1) (e.start nodes data sink) log reached

/-- The rendering of a template passes a point, also one inside a template that is rendered for a
helper, and registers some things on the way. -/
def Passes (e : Engine) (nodes : List Node) (data : Value) (sink : Sink)
    (log : List Registration) (point : Execution) : Prop :=
  Execution.Passes e.config (maxExpansions - 1) (e.start nodes data sink) log point

/-- A rendering in which nothing is registered. -/
def RegistersNothing (e : Engine) (nodes : List Node) (data : Value) (sink : Sink) : Prop :=
  ∀ log reached, e.Records nodes data sink log reached → log = []

/-- A rendering leaves the engine with all that was registered up to its end. -/
theorem exists_records (e : Engine) (nodes : List Node) (data : Value) (sink : Sink) :
    ∃ log final, e.Records nodes data sink log final ∧ final.jobs = [] := by
  obtain ⟨final, hfinal⟩ := e.exists_renders nodes data sink
  obtain ⟨log, hlog⟩ := Leads.exists_records (show Leads (.nested e.config _) _ _ from hfinal.leads)
  exact ⟨log, final, hlog, hfinal.done⟩

/-- Whatever a rendering comes to is a point that it passes. -/
theorem exists_passes (h : Leads e.setting (e.start nodes data sink) reached) :
    ∃ log, e.Passes nodes data sink log reached := by
  obtain ⟨log, hlog⟩ := Leads.exists_records (show Leads (.nested e.config _) _ _ from h)
  exact ⟨log, .here hlog⟩

theorem engine_renderValue (h : e.Records nodes data sink log final) (hdone : final.jobs = []) :
    (e.renderValue nodes data sink).engine = { e with registry := e.registry.record log } := by
  have hfinal : e.Renders nodes data sink final := ⟨h.leads, hdone⟩
  rw [hfinal.renderValue_eq, h.registry]
  rfl

end Engine

-- ════════════════════════════════════════════════════════════════════════
-- Helpers that register nothing
-- ════════════════════════════════════════════════════════════════════════

/-- A script that registers nothing, whatever it is told. -/
def Script.RegistersNothing : Script → Prop
  | reply _ | fail _ => True
  | write _ next | render _ _ next => ∀ fault?, (next fault?).RegistersNothing
  | capture _ _ _ next | expand _ _ next => ∀ c, (next c).RegistersNothing
  | compile _ next => ∀ result, (next result).RegistersNothing
  | defineHelper _ _ _ | defineBlockHelper _ _ _ | definePartial _ _ _ => False

/-- Scripts that register nothing, and all partials, nodes and faults. -/
def Bounds.silent : Bounds where
  scripts := Script.RegistersNothing
  partials _ _ := True
  nodes _ := True
  faults _ := True
  follows := by
    intro s s' hs hfollows
    cases hfollows with
    | write | refusal | render | renderFault => exact hs _
    | capture | captureFault | expand | compile => exact hs _
    | helper | defineHelper | blockHelper | defineBlockHelper | definePartial => exact hs.elim
  registers _ := trivial
  includes _ _ _ := trivial
  fails _ := trivial
  refuses := trivial
  misses _ := ⟨trivial, trivial⟩

namespace Execution

variable {config : Config} {expansions : Nat} {e e' : Execution} {log : List Registration}

theorem Within.registration?_eq_none (h : e.Within .silent) : e.registration? = none := by
  unfold registration?
  split
  · next job jobs _ hjobs =>
    have hjob : job.Within .silent := h.jobs job (by rw [hjobs]; exact List.mem_cons_self)
    cases job with
    | script role s =>
      cases s with
      | defineHelper | defineBlockHelper | definePartial => exact hjob.2.elim
      | _ => rfl
    | _ => rfl
  · rfl

/-- Where no helper registers anything, nothing is registered. -/
theorem Records.eq_nil (h : Records config expansions e log e') (he : e.Within .silent) :
    log = [] ∧ e'.Within .silent := by
  have hkept : ∀ {n : Nat} {mid mid' : Execution}, mid.Within .silent →
      mid.next (.nested config n) = some mid' → mid'.Within .silent := fun hmid hnext =>
    hmid.next (fun _ => keeps_renderTemplate (fun _ => trivial) config _) (fun _ _ => trivial) hnext
  induction h with
  | refl => exact ⟨rfl, he⟩
  | step _ _ hnext ih =>
    obtain ⟨rfl, hmid⟩ := ih he
    rw [hmid.registration?_eq_none]
    exact ⟨rfl, hkept hmid hnext⟩
  | expand _ _ _ _ hnext ih ihInner =>
    obtain ⟨rfl, hmid⟩ := ih he
    obtain ⟨rfl, -⟩ := ihInner ⟨by
      intro job hjob
      rw [List.mem_singleton.1 hjob]
      exact fun _ _ => trivial, hmid.registry, by simp [ofTemplate], by simp [ofTemplate]⟩
    exact ⟨rfl, hkept hmid hnext⟩
  | exhaust _ _ hnext ih =>
    obtain ⟨rfl, hmid⟩ := ih he
    exact ⟨rfl, hkept hmid hnext⟩

end Execution

/-- Where no registered helper registers anything, nor does a rendering. -/
theorem Engine.registersNothing_of_answers {e : Engine}
    (h : ∀ answer, e.registry.Answers answer → answer.RegistersNothing) (nodes : List Node)
    (data : Value) (sink : Sink) : e.RegistersNothing nodes data sink := by
  intro log reached hrecords
  have hregistry : e.registry.Within .silent :=
    Registry.within_of_answers h fun _ _ _ => trivial
  have hnodes : Bounds.silent.Body nodes := fun _ _ => trivial
  exact (hrecords.eq_nil (within_start hnodes hregistry data sink)).1

end TextTemplate

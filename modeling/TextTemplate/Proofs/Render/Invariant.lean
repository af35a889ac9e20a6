import TextTemplate.Proofs.Render.Agreement

/-!
# What executions keep

A property of executions that speaks of each job, of the registry and of a halt is kept by a step if
the move of the first job keeps it, and if helpers that wait go on well with the faults that there
can be. Templates that are rendered for helpers count only by what they make of the registry, and
that is what their own executions make of it.

## Main definitions

- `Invariant` — what is to hold of jobs, of the registry and of halts
- `Execution.Obeys`, `Move.Keeps` — an execution for which it holds, and a move that keeps it
- `Setting.KeepsRegistry` — templates that are rendered for helpers keep what holds of the registry
- `Registry.All` — a registry whose helpers all are of some kind
-/

namespace TextTemplate

/-- What is to hold of jobs, of the registry and of halts, and whether there may be sinks that
refuse. -/
structure Invariant where
  job : Job → Prop
  registry : Registry → Prop
  halt : Halt → Prop
  refuses : Prop

/-- Outputs of which none refuses anything. -/
structure Outputs.TakeAll (o : Outputs) : Prop where
  main : o.main.sink.limit = none
  apart : ∀ output ∈ o.apart, output.sink.limit = none

namespace Outputs.TakeAll

variable {o o' : Outputs} {w : Written}

theorem exists_put (h : o.TakeAll) (w : Written) : ∃ o', o.put w = .ok o' := by
  cases hapart : o.apart with
  | nil =>
    rw [put_of_apart_eq_nil hapart, if_pos (Sink.accepts_of_limit_eq_none h.main _)]
    exact ⟨_, rfl⟩
  | cons inner apart =>
    have hinner : inner.sink.limit = none := h.apart inner (by simp [hapart])
    rw [put_of_apart_eq_cons hapart, if_pos (Sink.accepts_of_limit_eq_none hinner _)]
    exact ⟨_, rfl⟩

theorem put (h : o.TakeAll) (hput : o.put w = .ok o') : o'.TakeAll := by
  obtain ⟨-, rfl⟩ | ⟨inner, apart, hapart, rfl⟩ := ok_of_put hput
  · exact ⟨h.main, h.apart⟩
  · have hall := h.apart
    rw [hapart, List.forall_mem_cons] at hall
    exact ⟨h.main, List.forall_mem_cons.2 hall⟩

theorem pushApart (h : o.TakeAll) (escape : Bool) : (o.pushApart escape).TakeAll :=
  ⟨h.main, List.forall_mem_cons.2 ⟨rfl, h.apart⟩⟩

theorem popApart (h : o.TakeAll) : o.popApart.TakeAll :=
  ⟨h.main, fun output houtput => h.apart output (List.mem_of_mem_tail houtput)⟩

end Outputs.TakeAll

/-- An execution all of whose parts are as an invariant says. -/
structure Execution.Obeys (inv : Invariant) (e : Execution) : Prop where
  jobs : ∀ job ∈ e.jobs, inv.job job
  registry : inv.registry e.registry
  halt : ∀ halt, e.halt? = some halt → inv.halt halt
  sinks : inv.refuses ∨ e.outputs.TakeAll

/-- A move that keeps an invariant. -/
def Move.Keeps (inv : Invariant) : Move → Prop
  | go jobs | apart _ jobs => ∀ job ∈ jobs, inv.job job
  | write _ jobs none => (∀ job ∈ jobs, inv.job job) ∧ (inv.refuses → inv.halt (.fault .write))
  | write _ jobs (some refused) =>
    (∀ job ∈ jobs, inv.job job) ∧ (inv.refuses → ∀ job ∈ refused .write, inv.job job)
  | register change jobs =>
    (∀ r, inv.registry r → inv.registry (change r)) ∧ ∀ job ∈ jobs, inv.job job
  | collect next => ∀ text, ∀ job ∈ next ⟨text, none⟩, inv.job job
  | expand _ _ next => inv.halt .exhausted ∧ ∀ c, ∀ job ∈ next c, inv.job job
  | fail fault => inv.halt (.fault fault)

/-- A job that goes on well with every fault that an invariant allows. -/
def Job.Resumes (inv : Invariant) : Job → Prop
  | resume role next =>
    ∀ fault, inv.halt (.fault fault) → inv.job (.script role (next (some fault)))
  | collect role next =>
    ∀ text fault, inv.halt (.fault fault) → inv.job (.script role (next ⟨text, some fault⟩))
  | _ => True

/-- Templates of their own that are rendered for helpers keep what holds of the registry. -/
def Setting.KeepsRegistry (P : Registry → Prop) (setting : Setting) : Prop :=
  ∀ nodes data escape registry, P registry →
    P (Render.left (setting.expand nodes data ⟨⟨escape, {}⟩, registry⟩)).registry

namespace Move

variable {inv : Invariant}

theorem keeps_go_nil : (Move.go []).Keeps inv := by
  intro job hjob
  cases hjob

theorem keeps_go_singleton {job : Job} (h : inv.job job) : (Move.go [job]).Keeps inv := by
  intro job' hjob
  rwa [List.mem_singleton.1 hjob]

theorem keeps_go_pair {job job' : Job} (h : inv.job job) (h' : inv.job job') :
    (Move.go [job, job']).Keeps inv :=
  List.forall_mem_cons.2 ⟨h, fun _ hjob => by rwa [List.mem_singleton.1 hjob]⟩

theorem keeps_write (w : Written) (h : inv.refuses → inv.halt (.fault .write)) :
    (Move.write w [] none).Keeps inv :=
  ⟨by simp, h⟩

end Move

namespace Execution

variable {inv : Invariant} {setting : Setting} {e e' : Execution} {jobs : List Job}

theorem Obeys.perform (hexpand : setting.KeepsRegistry inv.registry) (h : e.Obeys inv)
    (hjobs : ∀ job ∈ jobs, inv.job job) {move : Move} (hmove : move.Keeps inv) :
    (e.perform setting jobs move).Obeys inv := by
  have happend : ∀ {first : List Job}, (∀ job ∈ first, inv.job job) →
      ∀ job ∈ first ++ jobs, inv.job job :=
    fun hfirst => List.forall_mem_append.2 ⟨hfirst, hjobs⟩
  cases move with
  | go first => exact ⟨happend hmove, h.registry, h.halt, h.sinks⟩
  | write w first refused? =>
    have hfirst : ∀ job ∈ first, inv.job job := by cases refused? <;> exact hmove.1
    simp only [Execution.perform]
    cases hput : e.outputs.put w with
    | ok outputs =>
      exact ⟨happend hfirst, h.registry, h.halt, h.sinks.imp_right (·.put hput)⟩
    | error fault =>
      -- A refusal needs a sink that refuses.
      have hrefuses : inv.refuses := h.sinks.resolve_right fun htakes => by
        obtain ⟨outputs, hok⟩ := htakes.exists_put w
        rw [hok] at hput
        cases hput
      rw [Outputs.eq_write_of_put hput]
      cases refused? with
      | none =>
        refine ⟨hjobs, h.registry, ?_, h.sinks⟩
        rintro halt ⟨⟩
        exact hmove.2 hrefuses
      | some refused => exact ⟨happend (hmove.2 hrefuses), h.registry, h.halt, h.sinks⟩
  | register change first => exact ⟨happend hmove.2, hmove.1 _ h.registry, h.halt, h.sinks⟩
  | apart escape first =>
    exact ⟨happend hmove, h.registry, h.halt, h.sinks.imp_right (·.pushApart escape)⟩
  | collect next =>
    exact ⟨happend (hmove _), h.registry, h.halt, h.sinks.imp_right (·.popApart)⟩
  | expand nodes data next =>
    obtain ⟨hexhausted, hnext⟩ := hmove
    have hregistry := hexpand nodes data setting.config.escapeHtml e.registry h.registry
    simp only [Execution.perform]
    obtain ⟨c, hc⟩ | hc := Render.captured_cases setting.config.escapeHtml
      (setting.expand nodes data) ⟨e.outputs.current, e.registry⟩
    · rw [hc]
      exact ⟨happend (hnext c), hregistry, h.halt, h.sinks⟩
    · rw [hc]
      refine ⟨hjobs, hregistry, ?_, h.sinks⟩
      rintro halt ⟨⟩
      exact hexhausted
  | fail fault =>
    refine ⟨hjobs, h.registry, ?_, h.sinks⟩
    rintro halt ⟨⟩
    exact hmove

theorem Obeys.unwind (h : e.Obeys inv) (hjobs : ∀ job ∈ jobs, inv.job job) {job : Job}
    (hresumes : job.Resumes inv) {halt : Halt} (hhalt : e.halt? = some halt) :
    (e.unwind jobs halt job).Obeys inv := by
  have hin : inv.halt halt := h.halt halt hhalt
  have hpop : inv.refuses ∨ e.outputs.popApart.TakeAll := h.sinks.imp_right (·.popApart)
  cases job with
  | resume role next =>
    cases halt with
    | fault fault =>
      exact ⟨List.forall_mem_cons.2 ⟨hresumes fault hin, hjobs⟩, h.registry, by rintro halt ⟨⟩,
        h.sinks⟩
    | exhausted => exact ⟨hjobs, h.registry, h.halt, h.sinks⟩
  | collect role next =>
    cases halt with
    | fault fault =>
      exact ⟨List.forall_mem_cons.2 ⟨hresumes _ fault hin, hjobs⟩, h.registry, by rintro halt ⟨⟩,
        hpop⟩
    | exhausted => exact ⟨hjobs, h.registry, h.halt, hpop⟩
  | _ => cases halt <;> exact ⟨hjobs, h.registry, h.halt, h.sinks⟩

/-- A step keeps an invariant if the move of the first job does. -/
theorem Obeys.next (hexpand : setting.KeepsRegistry inv.registry)
    (hresumes : ∀ job, inv.job job → job.Resumes inv) (h : e.Obeys inv)
    (hmove : ∀ job jobs, e.jobs = job :: jobs → e.halt? = none → inv.job job →
      (job.move setting.config e.registry e.included.length).Keeps inv)
    (hnext : e.next setting = some e') : e'.Obeys inv := by
  obtain ⟨job, jobs, heq, hcases⟩ := next_cases hnext
  have hall := h.jobs
  rw [heq] at hall
  obtain ⟨hjob, hjobs⟩ := List.forall_mem_cons.1 hall
  obtain ⟨hruns, rfl⟩ | ⟨halt, hhalt, rfl⟩ := hcases
  · exact h.perform hexpand hjobs (hmove job jobs heq hruns hjob)
  · exact h.unwind hjobs (hresumes job hjob) hhalt

end Execution

/-- The execution of a template that is rendered for a helper. -/
def Execution.ofNodes (nodes : List Node) (data : Value) (escape : Bool) (registry : Registry) :
    Execution where
  jobs := [.nodes nodes (.root data)]
  outputs := { main := ⟨escape, {}⟩ }
  registry

/-- What the executions of templates keep of the registry is kept by templates that are rendered for
helpers, however many are rendered inside one another. -/
theorem keepsRegistry_renderTemplate {P : Registry → Prop} {config : Config}
    (h : ∀ setting : Setting, setting.config = config → setting.KeepsRegistry P →
      ∀ nodes data escape registry final, P registry →
        Execution.Leads setting (.ofNodes nodes data escape registry) final → P final.registry)
    (expansions : Nat) : Setting.KeepsRegistry P ⟨config, renderTemplate config expansions⟩ := by
  induction expansions with
  | zero => exact fun _ _ _ _ hregistry => hregistry
  | succ expansions ih =>
    intro nodes data escape registry hregistry
    obtain ⟨written, hleads⟩ := carries_template config expansions nodes data
      { main := ⟨escape, {}⟩ } registry [] rfl
    have hfinal := h _ rfl ih nodes data escape registry _ hregistry hleads
    simp only [Outputs.current] at hfinal ⊢
    cases hresult : renderTemplate config (expansions + 1) nodes data
        ⟨⟨escape, {}⟩, registry⟩ with
    | ok _ after | error _ after =>
      rw [hresult] at hfinal
      exact hfinal

-- ════════════════════════════════════════════════════════════════════════
-- Registries
-- ════════════════════════════════════════════════════════════════════════

/-- A registry in which all helpers and all block helpers are of some kind. -/
structure Registry.All (H : Helper → Prop) (B : BlockHelper → Prop) (r : Registry) : Prop where
  helpers : ∀ {name : String} {helper : Helper}, r.helper? name = some helper → H helper
  blockHelpers : ∀ {name : String} {helper : BlockHelper},
    r.blockHelper? name = some helper → B helper

namespace Registry.All

variable {H : Helper → Prop} {B : BlockHelper → Prop} {r : Registry}

theorem addHelper (h : r.All H B) (name : String) {helper : Helper} (hhelper : H helper) :
    (r.addHelper name helper).All H B := by
  refine ⟨?_, h.blockHelpers⟩
  intro other found hfound
  by_cases hname : other = name
  · subst hname
    rw [helper?_addHelper_self] at hfound
    cases hfound
    exact hhelper
  · rw [helper?_addHelper_of_ne _ _ hname] at hfound
    exact h.helpers hfound

theorem addBlockHelper (h : r.All H B) (name : String) {helper : BlockHelper}
    (hhelper : B helper) : (r.addBlockHelper name helper).All H B := by
  refine ⟨h.helpers, ?_⟩
  intro other found hfound
  by_cases hname : other = name
  · subst hname
    rw [blockHelper?_addBlockHelper_self] at hfound
    cases hfound
    exact hhelper
  · rw [blockHelper?_addBlockHelper_of_ne _ _ hname] at hfound
    exact h.blockHelpers hfound

theorem addPartial (h : r.All H B) (name : String) (nodes : List Node) :
    (r.addPartial name nodes).All H B :=
  ⟨h.helpers, h.blockHelpers⟩

end Registry.All

end TextTemplate

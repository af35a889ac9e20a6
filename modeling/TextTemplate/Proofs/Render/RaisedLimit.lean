import TextTemplate.Proofs.Render.PartialLimit
import TextTemplate.Proofs.Render.Writing

/-!
# Raising the limit of partials

Two limits make a difference only where one is reached. So a rendering in which no helper runs goes
the same way with a higher limit: to its end if it does not fail with the limit, and otherwise as
far as the inclusion that it fails at, from where on more may be written.

## Main definitions

- `Engine.withPartialLimit` — the engine with another limit of partials
- `Engine.RunsNoHelper` — a rendering in which no helper runs
-/

namespace TextTemplate

/-- The engine with another limit of partials. -/
def Engine.withPartialLimit (e : Engine) (limit : Nat) : Engine :=
  { e with config := { e.config with maxPartialDepth := limit } }

/-- A rendering in which no helper runs. -/
def Engine.RunsNoHelper (e : Engine) (nodes : List Node) (data : Value) (sink : Sink) : Prop :=
  ∀ reached, Execution.Leads e.setting (e.start nodes data sink) reached →
    ∀ role s, Job.script role s ∉ reached.jobs

/-- No scripts, and all partials, nodes and faults. -/
def Bounds.scriptless : Bounds where
  scripts _ := False
  partials _ _ := True
  nodes _ := True
  faults _ := True
  follows := False.elim
  registers := False.elim
  includes _ _ _ := trivial
  fails := False.elim
  refuses := trivial
  misses _ := ⟨trivial, trivial⟩

theorem Job.IsPlain.not_isWaiting {job : Job} (h : job.IsPlain) : ¬ job.IsWaiting := by
  cases job with
  | resume | collect => cases h
  | _ => exact id

/-- A job that does not wait for a branch passes all faults on. -/
theorem Job.passesOn_of_not_isWaiting {job : Job} (h : ¬ job.IsWaiting) (fault : RenderError) :
    job.PassesOn fault := by
  cases job with
  | resume | collect => exact absurd trivial h
  | _ => trivial

/-- A job that runs no helper makes the same move with limits that are the same, or of which it
exceeds neither. -/
theorem Job.move_congr {config config' : Config} {registry : Registry} {depth : Nat} {job : Job}
    (hscript : ∀ role s, job ≠ .script role s)
    (hlimit : ∀ name context? scope, job = .node (.partialRef name context?) scope →
      (registry.partial? name).isSome → config'.maxPartialDepth = config.maxPartialDepth ∨
        (depth < config.maxPartialDepth ∧ depth < config'.maxPartialDepth)) :
    job.move config' registry depth = job.move config registry depth := by
  cases job with
  | node n scope =>
    cases n with
    | partialRef name context? =>
      simp only [Job.move, Node.move]
      cases hfound : registry.partial? name with
      | none => rfl
      | some body =>
        obtain hsame | ⟨hdepth, hdepth'⟩ := hlimit name context? scope rfl (by simp [hfound])
        · simp only [hsame]
        · simp only [if_pos hdepth, if_pos hdepth']
    | _ => rfl
  | script role s => exact absurd rfl (hscript role s)
  | nodes ns scope => cases ns <;> rfl
  | each body scopes => cases scopes <;> rfl
  | _ => rfl

namespace Execution

variable {setting setting' : Setting} {e e' : Execution}

/-- A move that renders no template of its own does not depend on how these are rendered. -/
theorem perform_eq {move : Move} (h : ∀ nodes data next, move ≠ .expand nodes data next)
    (jobs : List Job) : e.perform setting' jobs move = e.perform setting jobs move := by
  cases move with
  | expand nodes data next => exact absurd rfl (h nodes data next)
  | _ => rfl

/-- A step at which no helper runs and the lower limit is not exceeded is the same with the higher
limit. -/
theorem next_of_le (hle : setting.config.maxPartialDepth ≤ setting'.config.maxPartialDepth)
    (hscript : ∀ role s, Job.script role s ∉ e.jobs)
    (hlimit : ∀ name, ¬ e.Exceeds setting.config.maxPartialDepth name)
    (hnext : e.next setting = some e') : e.next setting' = some e' := by
  obtain ⟨jobs, outputs, registry, halt?⟩ := e
  cases jobs with
  | nil => cases hnext
  | cons job jobs =>
    cases halt? with
    | some halt => exact hnext
    | none =>
      have hjob : ∀ role s, job ≠ .script role s := by
        rintro role s rfl
        exact hscript role s List.mem_cons_self
      rw [← hnext]
      simp only [Execution.next]
      rw [Job.move_congr hjob, perform_eq]
      · intro nodes data next hmove
        obtain ⟨role, s, rfl⟩ := Job.comesFrom_of_move hmove
        exact hjob role s rfl
      rintro name context? scope rfl hregistered
      have hdepth := Nat.lt_of_not_le fun hdepth =>
        hlimit name ⟨⟨rfl, context?, scope, jobs, rfl⟩, hregistered, hdepth⟩
      exact .inr ⟨hdepth, Nat.lt_of_lt_of_le hdepth hle⟩

/-- Where no helper runs, none comes to wait for a branch. -/
theorem not_isWaiting_next (hscript : ∀ role s, Job.script role s ∉ e.jobs)
    (hwaits : ∀ job ∈ e.jobs, ¬ job.IsWaiting) (hnext : e.next setting = some e') :
    ∀ job ∈ e'.jobs, ¬ job.IsWaiting := by
  obtain ⟨job, jobs, heq, hcases⟩ := next_cases hnext
  rw [heq] at hwaits
  obtain ⟨hjob, hjobs⟩ := List.forall_mem_cons.1 hwaits
  obtain ⟨hruns, rfl⟩ | ⟨halt, -, rfl⟩ := hcases
  · obtain hplain | hspecial :=
      Job.isPlain_move_or_special setting.config e.registry e.included.length job
    · obtain ⟨first, hfirst, hperform⟩ := perform_of_isPlain setting e hplain jobs
      rw [hperform]
      exact List.forall_mem_append.2 ⟨fun job hmem => (hfirst job hmem).not_isWaiting, hjobs⟩
    · cases hspecial with
      | inclusion name context? scope =>
        obtain ⟨body, -, -, hmove⟩ | ⟨_, -, -, hmove⟩ | ⟨-, hmove⟩ :=
          Job.move_inclusion setting.config e.registry e.included.length name context? scope
        · rw [hmove]
          exact List.forall_mem_cons.2 ⟨id, List.forall_mem_cons.2 ⟨id, hjobs⟩⟩
        · rw [hmove]
          exact hjobs
        · rw [hmove]
          exact hjobs
      | collecting => exact absurd trivial hjob
      | _ => exact absurd (by rw [heq]; exact List.mem_cons_self) (hscript _ _)
  · cases job with
    | resume | collect => exact absurd trivial hjob
    | _ => cases halt <;> exact hjobs

end Execution

namespace Engine

open Execution

variable {e : Engine} {nodes : List Node} {data : Value} {sink : Sink} {limit : Nat}
  {reached : Execution}

/-- A rendering in which no helper runs goes the same way with a higher limit, up to where it fails
with the lower one. -/
theorem leads_or_failing (hle : e.config.maxPartialDepth ≤ limit)
    (hquiet : e.RunsNoHelper nodes data sink)
    (h : Leads e.setting (e.start nodes data sink) reached) :
    (Leads (e.withPartialLimit limit).setting (e.start nodes data sink) reached ∧
        ∀ job ∈ reached.jobs, ¬ job.IsWaiting) ∨
      ∃ last name, Leads (e.withPartialLimit limit).setting (e.start nodes data sink) last ∧
        reached.Failing (.partialDepth name e.config.maxPartialDepth) ∧ last.Leaves reached := by
  -- Both runs are the same up to the inclusion that exceeds the lower limit; from there on only the
  -- run with the higher limit is of interest, and the other one passes its fault on.
  induction h with
  | refl =>
    refine .inl ⟨.refl, ?_⟩
    intro job hjob
    rw [List.mem_singleton.1 hjob]
    exact id
  | @tail mid after hleads hnext ih =>
    obtain ⟨hraised, hwaits⟩ | ⟨last, name, hlast, hfailing, hleaves⟩ := ih
    · by_cases hlimit : ∃ name, mid.Exceeds e.config.maxPartialDepth name
      · obtain ⟨name, hexceeds⟩ := hlimit
        obtain ⟨failing, hstep, hfailing, hleaves⟩ :=
          Exceeds.next (show mid.Exceeds e.setting.config.maxPartialDepth name from hexceeds)
            fun fault job hjob => Job.passesOn_of_not_isWaiting (hwaits job hjob) fault
        rw [hnext] at hstep
        cases hstep
        exact .inr ⟨mid, name, hraised, hfailing, hleaves⟩
      · have hscript := hquiet mid hleads
        refine .inl ⟨hraised.tail ?_, not_isWaiting_next hscript hwaits hnext⟩
        exact next_of_le hle hscript (fun name hexceeds => hlimit ⟨name, hexceeds⟩) hnext
    · obtain ⟨hfailing', hleaves'⟩ := hfailing.next hnext
      exact .inr ⟨last, name, hlast, hfailing', hleaves.trans hleaves'⟩

/-- Where no helper is registered, none runs. -/
theorem runsNoHelper_of_not_answers (h : ∀ answer, ¬ e.registry.Answers answer)
    (nodes : List Node) (data : Value) (sink : Sink) : e.RunsNoHelper nodes data sink := by
  intro reached hreached role s hmem
  have hregistry : e.registry.Within .scriptless :=
    Registry.within_of_answers h fun _ _ _ => trivial
  have hnodes : Bounds.scriptless.Body nodes := fun _ _ => trivial
  have hstart := within_start hnodes hregistry data sink
  have hwithin := hstart.leads (fun ⟨_, _, _, hexpand⟩ => hexpand.elim) (fun _ => trivial) hreached
  exact (hwithin.jobs _ hmem).2

/-- A list in brackets, whose items a partial shows in the same way. -/
def nestedNodes : List Node :=
  [.text "(", .block (.each (.path ⟨[.current]⟩)) "each" [.partialRef "nested" none] none,
    .text ")"]

/-- An engine with the partial for lists alone, and a limit. -/
def nestedEngine (limit : Nat) : Engine :=
  ⟨⟨true, limit, 8⟩, Registry.addPartial {} "nested" nestedNodes⟩

/-- A list of lists. -/
def nestedData : Value :=
  .sequence [.sequence [], .sequence [.sequence []]]

/-- Raising the limit of partials changes nothing for a rendering that does not fail with it, and
only adds to what was written by one that does. -/
theorem raised_limit_extends (e : Engine) (nodes : List Node) (data : Value) (sink : Sink)
    (limit : Nat) (hle : e.config.maxPartialDepth ≤ limit)
    (hquiet : e.RunsNoHelper nodes data sink) :
    ((∀ name reported, (e.renderValue nodes data sink).outcome ≠
          .error (.fault (.partialDepth name reported))) →
        ((e.withPartialLimit limit).renderValue nodes data sink).outcome =
          (e.renderValue nodes data sink).outcome ∧
        ((e.withPartialLimit limit).renderValue nodes data sink).sink =
          (e.renderValue nodes data sink).sink) ∧
      ∀ name reported, (e.renderValue nodes data sink).outcome =
          .error (.fault (.partialDepth name reported)) →
        ∃ chunks, ((e.withPartialLimit limit).renderValue nodes data sink).sink =
            (e.renderValue nodes data sink).sink.append chunks ∧
          ((e.withPartialLimit limit).renderValue nodes data sink).sink.text =
            (e.renderValue nodes data sink).sink.text ++ String.join chunks := by
  obtain ⟨final, hfinal⟩ := e.exists_renders nodes data sink
  obtain ⟨raised, hraised⟩ := (e.withPartialLimit limit).exists_renders nodes data sink
  rw [hfinal.renderValue_eq, hraised.renderValue_eq]
  obtain ⟨hleads, -⟩ | ⟨last, name, hlast, hfailing, hleaves⟩ :=
    leads_or_failing hle hquiet hfinal.leads
  · -- An execution without jobs takes no step, so both runs have come to the same end.
    have hsame : raised = final :=
      eq_of_leads_of_jobs (hraised.of_leads hleads) hfinal.done
    subst hsame
    exact ⟨fun _ => ⟨rfl, rfl⟩, fun _ _ _ => ⟨[], rfl, by simp⟩⟩
  · have houtcome := hfailing.outcome hfinal.done
    refine ⟨fun hother => absurd houtcome (hother _ _), fun _ _ _ => ?_⟩
    obtain ⟨more, -, hmain⟩ := Leads.extends (hraised.of_leads hlast)
    refine ⟨more.map (Written.chunk last.outputs.main.escape), ?_, ?_⟩
    · rw [hmain, hleaves.main]
    · rw [hmain, hleaves.main, Sink.text_append]

theorem raised_limit_extends_nested :
    (nestedEngine 1).config.maxPartialDepth ≤ 3 ∧
      (nestedEngine 1).RunsNoHelper nestedNodes nestedData {} ∧
      ((nestedEngine 1).renderValue nestedNodes nestedData {}).outcome =
        .error (.fault (.partialDepth "nested" 1)) ∧
      ∃ chunks, (((nestedEngine 1).withPartialLimit 3).renderValue nestedNodes nestedData {}).sink =
          ((nestedEngine 1).renderValue nestedNodes nestedData {}).sink.append chunks ∧
        (((nestedEngine 1).withPartialLimit 3).renderValue nestedNodes nestedData {}).sink.text =
          ((nestedEngine 1).renderValue nestedNodes nestedData {}).sink.text ++
            String.join chunks := by
  have hquiet : (nestedEngine 1).RunsNoHelper nestedNodes nestedData {} := by
    refine runsNoHelper_of_not_answers ?_ _ _ _
    rintro answer (⟨hlookup, _, _⟩ | ⟨hlookup, _, _, _⟩)
    · cases hlookup
    · cases hlookup
  have houtcome : ((nestedEngine 1).renderValue nestedNodes nestedData {}).outcome =
      .error (.fault (.partialDepth "nested" 1)) := by
    with_unfolding_all rfl
  exact ⟨by decide, hquiet, houtcome,
    (raised_limit_extends (nestedEngine 1) nestedNodes nestedData {} 3 (by decide) hquiet).2 _ _
      houtcome⟩

end Engine

end TextTemplate

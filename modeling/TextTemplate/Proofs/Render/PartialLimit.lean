import TextTemplate.Proofs.Render.Failing
import TextTemplate.Proofs.Render.Moves
import TextTemplate.Stock

/-!
# The limit of partials

Partials may include one another, and themselves, in any way. A rendering comes to an end all the
same, and no more partials are ever being rendered inside one another than the limit says. It fails
with the limit if and only if it comes to include a registered partial where the limit is reached;
where a partial is not registered, that is what it fails with, however deep.

## Main definitions

- `Script.Relays` — a script that passes on the faults of its branches
- `Bounds.relaying` — such scripts, and all faults but that of the limit
-/

namespace TextTemplate

/-- A script that passes on the faults of its branches, does not itself fail as the limit does, and
renders no template of its own; so do those that follow it, and the helpers that it registers. -/
def Script.Relays : Script → Prop
  | reply _ => True
  | fail fault => ∀ name limit, fault ≠ .partialDepth name limit
  | write _ next => (next none).Relays ∧ (next (some .write)).Relays
  | render _ _ next => (next none).Relays ∧ ∀ fault, next (some fault) = .fail fault
  | capture _ _ _ next =>
    ∀ text, (next ⟨text, none⟩).Relays ∧ ∀ fault, next ⟨text, some fault⟩ = .fail fault
  | compile _ next => ∀ result, (next result).Relays
  | expand _ _ _ => False
  | defineHelper _ helper next =>
    (∀ scope arguments, (helper scope arguments).Relays) ∧ next.Relays
  | defineBlockHelper _ helper next =>
    (∀ scope arguments hasOther, (helper scope arguments hasOther).Relays) ∧ next.Relays
  | definePartial _ _ next => next.Relays

/-- Scripts that relay, with all partials and nodes, and all faults but that of the limit. -/
def Bounds.relaying : Bounds where
  scripts := Script.Relays
  partials _ _ := True
  nodes _ := True
  faults fault := ∀ name limit, fault ≠ .partialDepth name limit
  follows := by
    intro s s' hs hfollows
    cases hfollows with
    | write => exact hs.1
    | refusal => exact hs.2
    | render => exact hs.1
    | renderFault hfault =>
      rw [hs.2]
      exact hfault
    | capture text => exact (hs text).1
    | captureFault text hfault =>
      rw [(hs text).2]
      exact hfault
    | compile result => exact hs result
    | expand c => exact hs.elim
    | helper scope arguments => exact hs.1 scope arguments
    | defineHelper => exact hs.2
    | blockHelper scope arguments hasOther => exact hs.1 scope arguments hasOther
    | defineBlockHelper => exact hs.2
    | definePartial => exact hs
  registers _ := trivial
  includes _ _ _ := trivial
  fails h := h
  refuses := by simp
  misses name := by simp

namespace Execution

variable {setting : Setting} {e e' : Execution} {fault : RenderError} {name : String}

/-- Helpers that relay pass all faults on. -/
theorem Within.passesOn (h : e.Within .relaying) (fault : RenderError) :
    ∀ job ∈ e.jobs, job.PassesOn fault := by
  intro job hjob
  cases job with
  | resume role next =>
    obtain ⟨-, branch, scope, hs⟩ := h.jobs _ hjob
    exact hs.2 fault
  | collect role next =>
    obtain ⟨-, branch, scope, escape, hs⟩ := h.jobs _ hjob
    exact fun text => (hs text).2 fault
  | _ => trivial

/-- An execution that fails includes nothing any more. -/
theorem Failing.not_includes (h : e.Failing fault) : ¬ e.Includes name := by
  rintro ⟨hruns, context?, scope, jobs, heq⟩
  cases h with
  | halted => cases hruns
  | script => cases heq

/-- A step at an inclusion begins with the body of the partial, or halts. -/
theorem Includes.next (h : e.Includes name) (setting : Setting) :
    ∃ jobs, jobs ⊆ e.jobs ∧ depthOf jobs = e.included.length ∧
      ((∃ body scope, e.registry.partial? name = some body ∧
          e.included.length < setting.config.maxPartialDepth ∧
          e.next setting = some { e with jobs := .nodes body scope :: .leave name :: jobs }) ∨
        (setting.config.maxPartialDepth ≤ e.included.length ∧
          (e.registry.partial? name).isSome ∧
          e.next setting = some { e with
            jobs, halt? := some (.fault (.partialDepth name setting.config.maxPartialDepth)) }) ∨
        (e.registry.partial? name = none ∧
          e.next setting =
            some { e with jobs, halt? := some (.fault (.missingPartial name)) })) := by
  obtain ⟨hruns, context?, scope, jobs, heq⟩ := h
  obtain ⟨jobs', outputs, registry, halt?⟩ := e
  simp only at hruns heq
  subst hruns heq
  refine ⟨jobs, List.subset_cons_self _ _, rfl, ?_⟩
  obtain ⟨body, hfound, hdepth, hmove⟩ | ⟨body, hfound, hdepth, hmove⟩ | ⟨hnone, hmove⟩ :=
    Job.move_inclusion setting.config registry
      (Execution.mk (.node (.partialRef name context?) scope :: jobs) outputs registry
        none).included.length name context? scope
  · refine .inl ⟨body, scope.ofPartial context?, hfound, hdepth, ?_⟩
    simp only [Execution.next, hmove]
    rfl
  · refine .inr (.inl ⟨hdepth, by simp [hfound], ?_⟩)
    simp only [Execution.next, hmove]
    rfl
  · refine .inr (.inr ⟨hnone, ?_⟩)
    simp only [Execution.next, hmove]
    rfl

/-- An inclusion where the limit is reached fails with the limit. -/
theorem Exceeds.next (h : e.Exceeds setting.config.maxPartialDepth name)
    (hpasses : ∀ fault, ∀ job ∈ e.jobs, job.PassesOn fault) :
    ∃ failing, e.next setting = some failing ∧
      failing.Failing (.partialDepth name setting.config.maxPartialDepth) ∧ e.Leaves failing := by
  obtain ⟨jobs, hjobs, -, ⟨_, _, -, hdepth, -⟩ | ⟨-, -, hnext⟩ | ⟨hnone, -⟩⟩ :=
    h.toIncludes.next setting
  · exact absurd h.depth (Nat.not_le_of_lt hdepth)
  · exact ⟨_, hnext, .halted fun job hjob => hpasses _ job (hjobs hjob), rfl, rfl, rfl⟩
  · have hregistered := h.registered
    rw [hnone] at hregistered
    cases hregistered

/-- The inclusion of a partial that is not registered fails with that, however deep. -/
theorem Includes.next_of_missing (h : e.Includes name) (hnone : e.registry.partial? name = none)
    (hpasses : ∀ fault, ∀ job ∈ e.jobs, job.PassesOn fault) :
    ∃ failing, e.next setting = some failing ∧ failing.Failing (.missingPartial name) := by
  obtain ⟨jobs, hjobs, -, ⟨_, _, hfound, -⟩ | ⟨-, hregistered, -⟩ | ⟨-, hnext⟩⟩ := h.next setting
  · rw [hnone] at hfound
    cases hfound
  · rw [hnone] at hregistered
    cases hregistered
  · exact ⟨_, hnext, .halted fun job hjob => hpasses _ job (hjobs hjob)⟩

-- ════════════════════════════════════════════════════════════════════════
-- Depth
-- ════════════════════════════════════════════════════════════════════════

theorem depthOf_eq_zero {jobs : List Job} (h : ∀ job ∈ jobs, job.IsPlain) : depthOf jobs = 0 := by
  rw [depthOf, List.length_eq_zero_iff, List.filterMap_eq_nil_iff]
  intro job hjob
  have hplain := h job hjob
  cases job with
  | leave => cases hplain
  | _ => rfl

theorem depthOf_le_cons (job : Job) (jobs : List Job) : depthOf jobs ≤ depthOf (job :: jobs) := by
  have hcons : depthOf (job :: jobs) = depthOf [job] + depthOf jobs := depthOf_append [job] jobs
  rw [hcons]
  exact Nat.le_add_left _ _

/-- No more partials are being rendered inside one another than the limit says. -/
theorem included_next (h : e.included.length ≤ setting.config.maxPartialDepth)
    (hnext : e.next setting = some e') :
    e'.included.length ≤ setting.config.maxPartialDepth := by
  obtain ⟨job, jobs, heq, hcases⟩ := next_cases hnext
  have hjobs : depthOf jobs ≤ setting.config.maxPartialDepth := by
    have hle := depthOf_le_cons job jobs
    rw [← heq] at hle
    exact Nat.le_trans hle h
  obtain ⟨hruns, rfl⟩ | ⟨halt, -, rfl⟩ := hcases
  · obtain hplain | hspecial :=
      Job.isPlain_move_or_special setting.config e.registry e.included.length job
    · obtain ⟨first, hfirst, hperform⟩ := perform_of_isPlain setting e hplain jobs
      change depthOf (e.perform setting jobs _).jobs ≤ _
      rwa [hperform, depthOf_append, depthOf_eq_zero hfirst, Nat.zero_add]
    cases hspecial with
    | inclusion name context? scope =>
      have hincludes : e.Includes name := ⟨hruns, context?, scope, jobs, heq⟩
      obtain ⟨jobs', -, hdepth, hstep⟩ := hincludes.next setting
      rw [hnext] at hstep
      obtain ⟨body, scope', -, hlt, hstep⟩ | ⟨-, -, hstep⟩ | ⟨-, hstep⟩ := hstep
      · have hbody : depthOf (.nodes body scope' :: .leave name :: jobs') = depthOf jobs' + 1 := rfl
        rw [Option.some.inj hstep]
        simp only [included]
        change depthOf _ ≤ _
        omega
      · rw [Option.some.inj hstep]
        exact Nat.le_trans (Nat.le_of_eq hdepth) h
      · rw [Option.some.inj hstep]
        exact Nat.le_trans (Nat.le_of_eq hdepth) h
    | writing role piece next =>
      simp only [Job.move, Script.move, perform]
      cases e.outputs.put (.helper piece) <;> exact hjobs
    | expanding role nodes data next =>
      simp only [Job.move, Script.move, perform]
      split <;> exact hjobs
    | _ => exact hjobs
  · cases job <;> cases halt <;> exact hjobs

end Execution

-- ════════════════════════════════════════════════════════════════════════
-- Templates
-- ════════════════════════════════════════════════════════════════════════

namespace Engine

open Execution

variable {e : Engine} {nodes : List Node} {data : Value} {sink : Sink} {reached final : Execution}
  {name : String}

theorem included_of_leads (h : Leads e.setting (e.start nodes data sink) reached) :
    reached.included.length ≤ e.config.maxPartialDepth :=
  h.keeps (P := fun reached => reached.included.length ≤ e.config.maxPartialDepth)
    (fun hle hnext => included_next hle hnext) (Nat.zero_le _)

variable (hrelays : ∀ answer, e.registry.Answers answer → answer.Relays)

include hrelays

theorem within_relaying_start (nodes : List Node) (data : Value) (sink : Sink) :
    (e.start nodes data sink).Within .relaying := by
  have hnodes : Bounds.relaying.Body nodes := fun _ _ => trivial
  exact within_start hnodes (Registry.within_of_answers hrelays fun _ _ _ => trivial) data sink

/-- As long as no inclusion exceeds the limit, no fault is that of the limit; after it, no other
fault is. -/
theorem within_or_failing (h : Leads e.setting (e.start nodes data sink) reached) :
    reached.Within .relaying ∨
      ∃ last name, Leads e.setting (e.start nodes data sink) last ∧
        last.Exceeds e.config.maxPartialDepth name ∧
        reached.Failing (.partialDepth name e.config.maxPartialDepth) := by
  -- Bounds without the fault of the limit are kept by every step but the one that exceeds it.
  induction h with
  | refl => exact .inl (within_relaying_start hrelays nodes data sink)
  | @tail mid after hleads hnext ih =>
    obtain hwithin | ⟨last, name, hlast, hexceeds, hfailing⟩ := ih
    · by_cases hlimit : ∃ name, mid.Exceeds e.config.maxPartialDepth name
      · obtain ⟨name, hexceeds⟩ := hlimit
        obtain ⟨failing, hstep, hfailing, -⟩ :=
          Exceeds.next (show mid.Exceeds e.setting.config.maxPartialDepth name from hexceeds)
            hwithin.passesOn
        rw [hnext] at hstep
        cases hstep
        exact .inr ⟨mid, name, hleads, hexceeds, hfailing⟩
      · refine .inl (hwithin.next ?_ (fun name hexceeds => (hlimit ⟨name, hexceeds⟩).elim) hnext)
        rintro ⟨_, _, _, hexpand⟩
        exact hexpand.elim
    · exact .inr ⟨last, name, hlast, hexceeds, (hfailing.next hnext).1⟩

/-- What comes to an inclusion has not failed. -/
theorem within_of_includes (h : Leads e.setting (e.start nodes data sink) reached)
    (hincludes : reached.Includes name) : reached.Within .relaying := by
  obtain hwithin | ⟨_, _, _, _, hfailing⟩ := within_or_failing hrelays h
  · exact hwithin
  · exact absurd hincludes hfailing.not_includes

end Engine

-- ════════════════════════════════════════════════════════════════════════
-- A partial without an end
-- ════════════════════════════════════════════════════════════════════════

theorem Script.Relays.put {piece : Piece} {s : Script} (h : s.Relays) :
    (Script.put piece s).Relays :=
  ⟨h, by simp [unlessFault, Relays]⟩

theorem Script.Relays.putBranch {branch : Branch} {scope : Scope} {s : Script} (h : s.Relays) :
    (Script.putBranch branch scope s).Relays :=
  ⟨h, fun _ => rfl⟩

/-- A partial that includes itself in both branches of a block, without an end. -/
def endlessNodes : List Node :=
  [.text "<", .block (.helper []) "both" [.partialRef "endless" none]
    (some [.partialRef "endless" none]), .text ">"]

/-- What is registered for the partial without an end: itself, and the block helper that it uses. -/
def endlessRegistry : Registry :=
  Registry.addBlockHelper (Registry.addPartial {} "endless" endlessNodes) "both" Stock.both

/-- An engine for the partial without an end, with a limit. -/
def endlessEngine : Engine :=
  ⟨⟨true, 3, 8⟩, endlessRegistry⟩

theorem relays_endlessRegistry {answer : Script} (h : endlessRegistry.Answers answer) :
    answer.Relays := by
  cases h with
  | helper hlookup => cases hlookup
  | @blockHelper name helper hlookup scope arguments hasOther =>
    by_cases hname : name = "both"
    · subst hname
      cases hlookup
      exact .putBranch (.put (.putBranch (.put (.put trivial))))
    · rw [endlessRegistry, Registry.blockHelper?_addBlockHelper_of_ne _ _ hname] at hlookup
      cases hlookup

-- ════════════════════════════════════════════════════════════════════════
-- The limit is exact
-- ════════════════════════════════════════════════════════════════════════

namespace Engine

open Execution

/-- A rendering comes to an end whatever partials include one another, and no more of them are being
rendered inside one another than the limit says. It fails with the limit if and only if it comes to
include a registered partial while as many are being rendered as the limit says; where it comes to
include one that is not registered, it fails with that. -/
theorem partial_limit_exact (e : Engine) (nodes : List Node)
    (hrelays : ∀ answer, e.registry.Answers answer → answer.Relays) (data : Value) (sink : Sink) :
    (∃ final, e.Renders nodes data sink final ∧
      (e.renderValue nodes data sink).outcome = final.outcome ∧
      final.outcome ≠ .error .exhausted) ∧
    (∀ reached, Leads e.setting (e.start nodes data sink) reached →
      reached.included.length ≤ e.config.maxPartialDepth) ∧
    (∀ reached name body, Leads e.setting (e.start nodes data sink) reached →
      reached.Includes name → reached.registry.partial? name = some body →
      reached.included.length < e.config.maxPartialDepth →
      ∃ inside scope jobs, reached.next e.setting = some inside ∧
        inside.jobs = .nodes body scope :: .leave name :: jobs ∧
        inside.included.length = reached.included.length + 1) ∧
    (∀ name limit,
      (e.renderValue nodes data sink).outcome = .error (.fault (.partialDepth name limit)) ↔
        limit = e.config.maxPartialDepth ∧
          ∃ reached, Leads e.setting (e.start nodes data sink) reached ∧ reached.Includes name ∧
            (reached.registry.partial? name).isSome ∧
            reached.included.length = e.config.maxPartialDepth) ∧
    ∀ reached name, Leads e.setting (e.start nodes data sink) reached → reached.Includes name →
      reached.registry.partial? name = none →
      (e.renderValue nodes data sink).outcome = .error (.fault (.missingPartial name)) := by
  obtain ⟨final, hfinal⟩ := e.exists_renders nodes data sink
  have houtcome : (e.renderValue nodes data sink).outcome = final.outcome := by
    rw [hfinal.renderValue_eq]
  rw [houtcome]
  refine ⟨⟨final, hfinal, rfl, ?_⟩, fun reached h => included_of_leads h, ?_, ?_, ?_⟩
  · -- Only a template of its own can make a rendering stop short, and no such script is in bounds.
    intro hexhausted
    obtain hwithin | ⟨last, name, -, -, hfailing⟩ := within_or_failing hrelays hfinal.leads
    · obtain ⟨_, _, _, hexpand⟩ := hwithin.halt _ (outcome_eq_error_iff.1 hexhausted)
      exact hexpand.elim
    · rw [hfailing.outcome hfinal.done] at hexhausted
      cases hexhausted
  · intro reached name body hreached hincludes hfound hdepth
    obtain ⟨jobs, -, hjobs, ⟨body', scope, hfound', -, hnext⟩ | ⟨hlimit, -⟩ | ⟨hnone, -⟩⟩ :=
      hincludes.next e.setting
    · rw [hfound, Option.some.injEq] at hfound'
      subst hfound'
      exact ⟨_, scope, jobs, hnext, rfl, congrArg (· + 1) hjobs⟩
    · exact absurd hdepth (Nat.not_lt_of_le hlimit)
    · rw [hfound] at hnone
      cases hnone
  · intro name limit
    constructor
    · intro hfault
      obtain hwithin | ⟨last, name', hlast, hexceeds, hfailing⟩ :=
        within_or_failing hrelays hfinal.leads
      · exact absurd rfl (hwithin.halt _ (outcome_eq_error_iff.1 hfault) name limit)
      · rw [hfailing.outcome hfinal.done] at hfault
        cases hfault
        exact ⟨rfl, last, hlast, hexceeds.toIncludes, hexceeds.registered,
          Nat.le_antisymm (included_of_leads hlast) hexceeds.depth⟩
    · rintro ⟨rfl, reached, hreached, hincludes, hregistered, hdepth⟩
      have hwithin := within_of_includes hrelays hreached hincludes
      have hexceeds : reached.Exceeds e.setting.config.maxPartialDepth name :=
        ⟨hincludes, hregistered, Nat.le_of_eq hdepth.symm⟩
      obtain ⟨failing, hnext, hfailing, -⟩ := hexceeds.next hwithin.passesOn
      exact (hfinal.of_failing hreached hnext hfailing).1
  · intro reached name hreached hincludes hnone
    have hwithin := within_of_includes hrelays hreached hincludes
    obtain ⟨failing, hnext, hfailing⟩ := hincludes.next_of_missing hnone hwithin.passesOn
    exact (hfinal.of_failing hreached hnext hfailing).1

theorem partial_limit_exact_endless :
    (∀ answer, endlessEngine.registry.Answers answer → answer.Relays) ∧
      (endlessEngine.renderValue endlessNodes .null {}).outcome =
        .error (.fault (.partialDepth "endless" 3)) ∧
      ∃ reached, Leads endlessEngine.setting
          (endlessEngine.start endlessNodes .null {}) reached ∧
        reached.Includes "endless" ∧ (reached.registry.partial? "endless").isSome ∧
        reached.included.length = 3 := by
  have hrelays : ∀ answer, endlessEngine.registry.Answers answer → answer.Relays :=
    fun _ h => relays_endlessRegistry h
  have houtcome : (endlessEngine.renderValue endlessNodes .null {}).outcome =
      .error (.fault (.partialDepth "endless" 3)) := by
    with_unfolding_all rfl
  obtain ⟨-, -, -, hlimit, -⟩ :=
    partial_limit_exact endlessEngine endlessNodes hrelays .null {}
  exact ⟨hrelays, houtcome, ((hlimit "endless" 3).1 houtcome).2⟩

end Engine

end TextTemplate

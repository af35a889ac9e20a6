import TextTemplate.Proofs.Render.Invariant
import TextTemplate.Proofs.Render.Moves
import TextTemplate.Proofs.Render.Reach
import TextTemplate.Stock

/-!
# Where faults come from

No shape of the data makes a rendering fail: a path that finds nothing is missing, a collection that
is none has no members, and a value that is not there is not true. If the sink refuses nothing and
helpers fail only with faults that their own branches have come to, a rendering fails only at a node
whose name is not found, or at an inclusion where the limit is reached.

## Main definitions

- `Node.Raises` — a node that fails by itself
- `Script.IntroducesNoFault` — a script that fails only with faults that it was told of
- `Invariant.blameless` — executions in which only nodes fail by themselves
- `Node.LooksNothingUp` — a node that needs no name to be registered
-/

namespace TextTemplate

-- ════════════════════════════════════════════════════════════════════════
-- Nodes that fail
-- ════════════════════════════════════════════════════════════════════════

/-- A node that fails by itself, where some partials are being rendered: no helper, block helper or
partial is registered under its name, or the limit of partials is reached. -/
inductive Node.Raises (config : Config) (registry : Registry) (depth : Nat) :
    Node → RenderError → Prop
  | call {name : String} {arguments : List Param} {escaped : Bool}
      (h : registry.helper? name = none) :
      Raises config registry depth (.call name arguments escaped) (.missingHelper name)
  | block {name : String} {arguments : List Param} {consequent : List Node}
      {alternate? : Option (List Node)} (h : registry.blockHelper? name = none) :
      Raises config registry depth (.block (.helper arguments) name consequent alternate?)
        (.missingHelper name)
  | missing {name : String} {context? : Option Param} (h : registry.partial? name = none) :
      Raises config registry depth (.partialRef name context?) (.missingPartial name)
  | exceeding {name : String} {context? : Option Param} {body : List Node}
      (h : registry.partial? name = some body) (hdepth : config.maxPartialDepth ≤ depth) :
      Raises config registry depth (.partialRef name context?)
        (.partialDepth name config.maxPartialDepth)

/-- A node that needs no helper, no block helper and no partial to be registered. -/
def Node.LooksNothingUp : Node → Prop
  | call _ _ _ | block (.helper _) _ _ _ | partialRef _ _ => False
  | text _ | path _ _ | literal _ _ | block _ _ _ _ => True

theorem Node.Raises.not_looksNothingUp {config : Config} {registry : Registry} {depth : Nat}
    {n : Node} {fault : RenderError} (h : n.Raises config registry depth fault) :
    ¬ n.LooksNothingUp := by
  cases h <;> exact id

-- ════════════════════════════════════════════════════════════════════════
-- Helpers that do not
-- ════════════════════════════════════════════════════════════════════════

/-- A script that fails only with faults that it was told of: those that its branches have ended
with. Faults of templates of their own that it has rendered do not count among them. So do the
helpers that it registers. -/
def Script.IntroducesNoFault (limit : Nat) : Script → (RenderError → Prop) → Prop
  | reply _, _ => True
  | fail fault, told => told fault
  | write _ next, told => (next none).IntroducesNoFault limit told
  | render _ _ next, told =>
    (next none).IntroducesNoFault limit told ∧
      ∀ fault, (next (some fault)).IntroducesNoFault limit fun f => told f ∨ f = fault
  | capture _ _ _ next, told =>
    ∀ text, (next ⟨text, none⟩).IntroducesNoFault limit told ∧
      ∀ fault, (next ⟨text, some fault⟩).IntroducesNoFault limit fun f => told f ∨ f = fault
  | compile source next, told =>
    (next (parseTemplate limit source)).IntroducesNoFault limit told
  | expand _ _ next, told => ∀ c, (next c).IntroducesNoFault limit told
  | defineHelper _ helper next, told =>
    (∀ scope arguments, (helper scope arguments).IntroducesNoFault limit fun _ => False) ∧
      next.IntroducesNoFault limit told
  | defineBlockHelper _ helper next, told =>
    (∀ scope arguments hasOther,
      (helper scope arguments hasOther).IntroducesNoFault limit fun _ => False) ∧
      next.IntroducesNoFault limit told
  | definePartial _ _ next, told => next.IntroducesNoFault limit told

namespace Script.IntroducesNoFault

variable {limit : Nat} {told told' : RenderError → Prop}

/-- A script may be told of more faults. -/
theorem mono {s : Script} (h : s.IntroducesNoFault limit told)
    (htold : ∀ fault, told fault → told' fault) : s.IntroducesNoFault limit told' := by
  have hmore : ∀ {told told' : RenderError → Prop} (fault : RenderError),
      (∀ f, told f → told' f) → ∀ f, told f ∨ f = fault → told' f ∨ f = fault :=
    fun _ h f => Or.imp_left (h f)
  induction s generalizing told told' with
  | reply => trivial
  | fail fault => exact htold fault h
  | write piece next ih => exact ih none h htold
  | render branch scope next ih =>
    exact ⟨ih none h.1 htold, fun fault => ih _ (h.2 fault) (hmore fault htold)⟩
  | capture branch scope escape next ih =>
    exact fun text =>
      ⟨ih _ (h text).1 htold, fun fault => ih _ ((h text).2 fault) (hmore fault htold)⟩
  | compile source next ih => exact ih _ h htold
  | expand nodes data next ih => exact fun c => ih c (h c) htold
  | defineHelper name helper next _ ih => exact ⟨h.1, ih h.2 htold⟩
  | defineBlockHelper name helper next _ ih => exact ⟨h.1, ih h.2 htold⟩
  | definePartial name nodes next ih => exact ih h htold

/-- A fault that was there before is none that a script is newly told of. -/
theorem of_told {s : Script} {fault : RenderError}
    (h : s.IntroducesNoFault limit fun f => told f ∨ f = fault) (hfault : told fault) :
    s.IntroducesNoFault limit told :=
  h.mono fun _ hf => hf.elim id fun heq => heq ▸ hfault

theorem put {piece : Piece} {s : Script} (h : s.IntroducesNoFault limit told) :
    (Script.put piece s).IntroducesNoFault limit told := h

theorem putBranch {branch : Branch} {scope : Scope} {s : Script}
    (h : s.IntroducesNoFault limit told) :
    (Script.putBranch branch scope s).IntroducesNoFault limit told :=
  ⟨h, fun _ => .inr rfl⟩

end Script.IntroducesNoFault

/-- A registry whose helpers fail only with faults of their own branches. -/
abbrev Registry.Blameless (limit : Nat) : Registry → Prop :=
  Registry.All
    (fun helper => ∀ scope arguments,
      (helper scope arguments).IntroducesNoFault limit fun _ => False)
    (fun helper => ∀ scope arguments hasOther,
      (helper scope arguments hasOther).IntroducesNoFault limit fun _ => False)

/-- Helpers fail only with faults that nodes have raised, and no write is refused. -/
def Invariant.blameless (limit : Nat) (raised : RenderError → Prop) : Invariant where
  job
    | .script _ s => s.IntroducesNoFault limit raised
    | .resume _ next =>
      (next none).IntroducesNoFault limit raised ∧
        ∀ fault, (next (some fault)).IntroducesNoFault limit fun f => raised f ∨ f = fault
    | .collect _ next =>
      ∀ text, (next ⟨text, none⟩).IntroducesNoFault limit raised ∧
        ∀ fault, (next ⟨text, some fault⟩).IntroducesNoFault limit fun f => raised f ∨ f = fault
    | _ => True
  registry := Registry.Blameless limit
  halt
    | .fault fault => raised fault
    | .exhausted => True
  refuses := False

-- ════════════════════════════════════════════════════════════════════════
-- Moves
-- ════════════════════════════════════════════════════════════════════════

section

variable {config : Config} {registry : Registry} {depth : Nat} {raised : RenderError → Prop}

theorem Job.resumes_blameless {limit : Nat} {job : Job}
    (h : (Invariant.blameless limit raised).job job) :
    job.Resumes (.blameless limit raised) := by
  cases job with
  | resume role next => exact fun fault hfault => (h.2 fault).of_told hfault
  | collect role next => exact fun text fault hfault => ((h text).2 fault).of_told hfault
  | _ => trivial

theorem BlockKind.blameless_move {limit : Nat} {scope : Scope} {kind : BlockKind} {name : String}
    {consequent alternate : List Node} {hasOther : Bool} (hregistry : registry.Blameless limit)
    (hraised : ∀ arguments, kind = .helper arguments → registry.blockHelper? name = none →
      raised (.missingHelper name)) :
    (kind.move registry name consequent alternate hasOther scope).Keeps
      (.blameless limit raised) := by
  have hstep := kind.step_move registry name consequent alternate hasOther scope
  generalize kind.move registry name consequent alternate hasOther scope = move at hstep ⊢
  cases hstep with
  | enter | visit | other => exact Move.keeps_go_singleton trivial
  | run arguments _ hfound =>
    exact Move.keeps_go_singleton ((hregistry.blockHelpers hfound _ _ _).mono fun _ h => h.elim)
  | missing hkind hnone => exact hraised _ hkind hnone

theorem Node.blameless_move {limit : Nat} {scope : Scope} {n : Node}
    (hregistry : registry.Blameless limit)
    (hraised : ∀ fault, n.Raises config registry depth fault → raised fault) :
    (n.move config registry depth scope).Keeps (.blameless limit raised) := by
  cases n with
  | text | literal => exact Move.keeps_write _ False.elim
  | path p escaped =>
    simp only [Node.move]
    split
    · exact Move.keeps_write _ False.elim
    · exact Move.keeps_go_nil
  | call name arguments escaped =>
    simp only [Node.move]
    split
    · next helper hfound =>
      exact Move.keeps_go_singleton ((hregistry.helpers hfound _ _).mono fun _ h => h.elim)
    · next hnone => exact hraised _ (.call hnone)
  | block kind name consequent alternate? =>
    refine BlockKind.blameless_move hregistry ?_
    rintro arguments rfl hnone
    exact hraised _ (.block hnone)
  | partialRef name context? =>
    obtain ⟨body, hfound, hdepth, hmove⟩ | ⟨body, hfound, hdepth, hmove⟩ | ⟨hnone, hmove⟩ :=
      Job.move_inclusion config registry depth name context? scope
    all_goals
      simp only [Job.move] at hmove
      rw [hmove]
    · exact Move.keeps_go_pair trivial trivial
    · exact hraised _ (.exceeding hfound hdepth)
    · exact hraised _ (.missing hnone)

theorem Script.blameless_move {role : Role} {s : Script}
    (hs : s.IntroducesNoFault config.maxBlockDepth raised) :
    (s.move config role).Keeps (.blameless config.maxBlockDepth raised) := by
  have hone : ∀ {s' : Script}, s'.IntroducesNoFault config.maxBlockDepth raised →
      ∀ job ∈ [Job.script role s'], (Invariant.blameless config.maxBlockDepth raised).job job := by
    intro s' hs' job hjob
    rw [List.mem_singleton.1 hjob]
    exact hs'
  cases s with
  | reply r =>
    cases role with
    | block => exact Move.keeps_go_nil
    | call escaped =>
      cases r with
      | nothing => exact Move.keeps_go_nil
      | value | safe => exact Move.keeps_write _ False.elim
  | fail fault => exact hs
  | write piece next => exact ⟨hone hs, False.elim⟩
  | render branch scope next => exact Move.keeps_go_pair trivial hs
  | capture branch scope escape next => exact Move.keeps_go_pair trivial hs
  | compile source next => exact hone hs
  | expand nodes data next => exact ⟨trivial, fun c => hone (hs c)⟩
  | defineHelper name helper next => exact ⟨fun _ hr => hr.addHelper name hs.1, hone hs.2⟩
  | defineBlockHelper name helper next =>
    exact ⟨fun _ hr => hr.addBlockHelper name hs.1, hone hs.2⟩
  | definePartial name nodes next => exact ⟨fun _ hr => hr.addPartial name nodes, hone hs⟩

/-- No job fails but nodes that fail by themselves, and scripts that pass on their faults. -/
theorem Job.blameless_move {job : Job} (hregistry : registry.Blameless config.maxBlockDepth)
    (hjob : (Invariant.blameless config.maxBlockDepth raised).job job)
    (hraised : ∀ n scope fault, job = .node n scope → n.Raises config registry depth fault →
      raised fault) :
    (job.move config registry depth).Keeps (.blameless config.maxBlockDepth raised) := by
  cases job with
  | nodes ns scope =>
    cases ns with
    | nil => exact Move.keeps_go_nil
    | cons n ns => exact Move.keeps_go_pair trivial trivial
  | node n scope => exact Node.blameless_move hregistry fun fault => hraised n scope fault rfl
  | each body scopes =>
    cases scopes with
    | nil => exact Move.keeps_go_nil
    | cons scope scopes => exact Move.keeps_go_pair trivial trivial
  | leave name => exact Move.keeps_go_nil
  | script role s => exact Script.blameless_move hjob
  | resume role next => exact Move.keeps_go_singleton hjob.1
  | collect role next =>
    intro text job hjob'
    rw [List.mem_singleton.1 hjob']
    exact (hjob text).1

end

-- ════════════════════════════════════════════════════════════════════════
-- Runs
-- ════════════════════════════════════════════════════════════════════════

namespace Execution

variable {setting : Setting} {e e' : Execution} {fault : RenderError}

/-- An execution whose first job is a node that fails by itself. -/
structure Raises (config : Config) (e : Execution) (n : Node) (fault : RenderError) : Prop where
  runs : e.halt? = none
  head : ∃ scope jobs, e.jobs = .node n scope :: jobs
  raises : n.Raises config e.registry e.included.length fault

/-- Along an execution helpers fail only with faults that nodes have raised before. -/
theorem obeys_blameless {raised : RenderError → Prop}
    (hexpand : setting.KeepsRegistry (Registry.Blameless setting.config.maxBlockDepth))
    (hraised : ∀ point n fault, Leads setting e point → point.Raises setting.config n fault →
      raised fault)
    (h : e.Obeys (.blameless setting.config.maxBlockDepth raised)) (hleads : Leads setting e e') :
    e'.Obeys (.blameless setting.config.maxBlockDepth raised) := by
  induction hleads with
  | refl => exact h
  | @tail mid last hmid hnext ih =>
    refine ih.next hexpand (fun _ hjob => Job.resumes_blameless hjob) ?_ hnext
    intro job jobs heq hruns hjob
    refine Job.blameless_move ih.registry hjob ?_
    rintro n scope fault rfl hfault
    exact hraised mid n fault hmid ⟨hruns, ⟨scope, jobs, heq⟩, hfault⟩

end Execution

/-- Templates that are rendered for helpers register no helpers with faults of their own, if no
helper does. -/
theorem keepsRegistry_blameless (config : Config) (expansions : Nat) :
    Setting.KeepsRegistry (Registry.Blameless config.maxBlockDepth)
      ⟨config, renderTemplate config expansions⟩ := by
  refine keepsRegistry_renderTemplate ?_ expansions
  rintro setting rfl hkeeps nodes data escape registry final hregistry hleads
  -- Inside a template of its own any fault may be raised.
  have hstart : (Execution.ofNodes nodes data escape registry).Obeys
      (.blameless setting.config.maxBlockDepth fun _ => True) := by
    refine ⟨?_, hregistry, by simp [Execution.ofNodes], .inr ⟨rfl, by simp [Execution.ofNodes]⟩⟩
    intro job hjob
    rw [List.mem_singleton.1 hjob]
    trivial
  exact (Execution.obeys_blameless hkeeps (fun _ _ _ _ _ => trivial) hstart hleads).registry

-- ════════════════════════════════════════════════════════════════════════
-- A survey
-- ════════════════════════════════════════════════════════════════════════

/-- A block helper that renders its main branch apart, and keeps all that it comes to to itself. -/
def hush : BlockHelper := fun scope _ _ =>
  .capture .main scope true fun _ => .reply .nothing

/-- What is registered for a survey: a block helper that keeps faults of its branch to itself, and
one that passes them on. -/
def surveyRegistry : Registry :=
  Registry.addBlockHelper (Registry.addBlockHelper {} "hush" hush) "both" Stock.both

theorem blameless_surveyRegistry (limit : Nat) : surveyRegistry.Blameless limit := by
  have hempty : Registry.Blameless limit {} := ⟨nofun, nofun⟩
  refine (hempty.addBlockHelper "hush" ?_).addBlockHelper "both" ?_
  · exact fun scope arguments hasOther text => ⟨trivial, fun fault => trivial⟩
  · exact fun scope arguments hasOther => .putBranch (.put (.putBranch (.put (.put trivial))))

/-- An engine for surveys. -/
def surveyEngine : Engine :=
  ⟨{}, surveyRegistry⟩

/-- Members of what has none, a step above the root, a call that nobody hears of, and a partial that
is not there. -/
def surveyNodes : List Node :=
  [.block (.each (.path ⟨[.current]⟩)) "each" [.path ⟨[.key, .name "x"]⟩ true] (some [.text "none"]),
    .path ⟨[.parent, .name "up"]⟩ true,
    .block (.helper []) "hush" [.call "shout" [.path ⟨[.name "x"]⟩] true] none,
    .block (.helper []) "both" [.partialRef "gone" none] none]

namespace Engine

open Execution

/-- Whatever the data, a rendering into a sink that refuses nothing, with helpers that fail only
with faults of their own branches, fails only with a name of the template, or of a partial that it
reaches, which is not registered when it is looked up, or which stands for a partial beyond the
limit. It stops short only if helpers render templates of their own inside one another. A template
that looks nothing up does not fail. -/
theorem faults_come_from_lookups (e : Engine) (nodes : List Node)
    (hblameless : e.registry.Blameless e.config.maxBlockDepth) (data : Value) (sink : Sink)
    (hsink : sink.limit = none) :
    (∀ fault, (e.renderValue nodes data sink).outcome = .error (.fault fault) →
      ∃ point n, Leads e.setting (e.start nodes data sink) point ∧
        point.Raises e.config n fault ∧ e.registry.Reaches nodes n) ∧
    ((e.renderValue nodes data sink).outcome = .error .exhausted →
      ∃ body value next, e.registry.MayRun (.expand body value next)) ∧
    ((∀ n : Node, n.Occurs nodes → n.LooksNothingUp) →
      (e.renderValue nodes data sink).outcome = .ok () ∨
        (e.renderValue nodes data sink).outcome = .error .exhausted) := by
  obtain ⟨final, hfinal⟩ := e.exists_renders nodes data sink
  have houtcome : (e.renderValue nodes data sink).outcome = final.outcome := by
    rw [hfinal.renderValue_eq]
  rw [houtcome]
  have hstart : (e.start nodes data sink).Obeys (.blameless e.config.maxBlockDepth fun fault =>
      ∃ point n, Leads e.setting (e.start nodes data sink) point ∧
        point.Raises e.config n fault) := by
    refine ⟨?_, hblameless, by simp [start], .inr ⟨hsink, by simp [start]⟩⟩
    intro job hjob
    rw [List.mem_singleton.1 hjob]
    trivial
  have hobeys := obeys_blameless (keepsRegistry_blameless e.config _)
    (fun point n fault hpoint hraises => ⟨point, n, hpoint, hraises⟩) hstart hfinal.leads
  have hfaults : ∀ fault, final.outcome = .error (.fault fault) →
      ∃ point n, Leads e.setting (e.start nodes data sink) point ∧
        point.Raises e.config n fault ∧ e.registry.Reaches nodes n := by
    intro fault hfault
    obtain ⟨point, n, hpoint, hraises⟩ := hobeys.halt _ (outcome_eq_error_iff.1 hfault)
    obtain ⟨scope, jobs, heq⟩ := hraises.head
    have hjob : Job.node n scope ∈ point.jobs := by
      rw [heq]
      exact List.mem_cons_self
    exact ⟨point, n, hpoint, hraises, (within_reached hpoint).jobs _ hjob n .head⟩
  refine ⟨hfaults, ?_, ?_⟩
  · intro hexhausted
    exact (within_reached hfinal.leads).halt _ (outcome_eq_error_iff.1 hexhausted)
  · intro hnodes
    -- Without partials a template reaches no nodes but its own.
    have hoccurs : ∀ n, e.registry.Reaches nodes n → n.Occurs nodes := by
      intro n hn
      induction hn with
      | here h => exact h
      | included _ _ _ ih => exact (hnodes _ ih).elim
    cases hresult : final.outcome with
    | ok _ => exact .inl rfl
    | error halt =>
      cases halt with
      | exhausted => exact .inr rfl
      | fault fault =>
        obtain ⟨point, n, -, hraises, hreaches⟩ := hfaults fault hresult
        exact absurd (hnodes n (hoccurs n hreaches)) hraises.raises.not_looksNothingUp

theorem faults_come_from_lookups_survey :
    surveyEngine.registry.Blameless surveyEngine.config.maxBlockDepth ∧
      ({} : Sink).limit = none ∧
      (surveyEngine.renderValue surveyNodes (.boolean true) {}).outcome =
        .error (.fault (.missingPartial "gone")) ∧
      ∃ point n, Leads surveyEngine.setting
          (surveyEngine.start surveyNodes (.boolean true) {}) point ∧
        point.Raises surveyEngine.config n (.missingPartial "gone") ∧
        surveyEngine.registry.Reaches surveyNodes n := by
  have hblameless := blameless_surveyRegistry surveyEngine.config.maxBlockDepth
  have houtcome : (surveyEngine.renderValue surveyNodes (.boolean true) {}).outcome =
      .error (.fault (.missingPartial "gone")) := by
    with_unfolding_all rfl
  exact ⟨hblameless, rfl, houtcome,
    (faults_come_from_lookups surveyEngine surveyNodes hblameless (.boolean true) {} rfl).1 _
      houtcome⟩

end Engine

end TextTemplate
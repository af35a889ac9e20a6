import TextTemplate.Proofs.Render.Execution

/-!
# Executions come to what is rendered

The execution that renders a template always comes to an end, and what it has come to there is what
the rendering gives: how it ended, the sink, and the registry. This holds of every part of a
template, whatever else is still to be done behind it.

## Main definitions

- `Execution.Ends` — an execution that comes to the result of a rendering
- `Carries` — jobs that do what a rendering does
- `Setting.env` — what nodes are rendered with, by the number of partials that may still be included
- `Engine.Renders` — the end of the execution that renders a template
-/

namespace TextTemplate

open Render

namespace Outputs

/-- Puts an output in place of the current one. -/
def set (o : Outputs) (output : Output) (written : List Written) : Outputs :=
  match o.apart with
  | [] => { main := output, written }
  | _ :: apart => { o with apart := output :: apart }

@[simp]
theorem current_set (o : Outputs) (output : Output) (written : List Written) :
    (o.set output written).current = output := by
  obtain ⟨main, before, _ | ⟨inner, apart⟩⟩ := o <;> rfl

@[simp]
theorem set_set (o : Outputs) (output output' : Output) (written written' : List Written) :
    (o.set output written).set output' written' = o.set output' written' := by
  obtain ⟨main, before, _ | ⟨inner, apart⟩⟩ := o <;> rfl

theorem set_current (o : Outputs) : o.set o.current o.written = o := by
  obtain ⟨main, before, _ | ⟨inner, apart⟩⟩ := o <;> rfl

@[simp]
theorem current_pushApart (o : Outputs) (escape : Bool) :
    (o.pushApart escape).current = ⟨escape, {}⟩ := rfl

@[simp]
theorem popApart_set_pushApart (o : Outputs) (escape : Bool) (output : Output)
    (written : List Written) : ((o.pushApart escape).set output written).popApart = o := rfl

/-- Writing changes the current output alone. -/
theorem put_eq (o : Outputs) (w : Written) :
    o.put w = (o.current.put w.piece).map fun output => o.set output (o.written ++ [w]) := by
  obtain ⟨main, before, _ | ⟨inner, apart⟩⟩ := o <;> rfl

end Outputs

theorem Render.bind_apply {α β : Type} (x : Render α) (f : α → Render β) (stage : Stage) :
    (x >>= f) stage =
      match x stage with
      | .ok a after => f a after
      | .error halt after => .error halt after := by
  cases h : x stage <;> simp only [bind, EStateM.bind, h]

theorem Render.find_apply {α : Type} (look : Registry → Option α) (fault : RenderError)
    (stage : Stage) :
    find look fault stage =
      match look stage.registry with
      | some found => .ok found stage
      | none => .error (.fault fault) stage := by
  have hfind : find look fault stage =
      (match look stage.registry with
      | some found => pure found
      | none => fail fault : Render α) stage := rfl
  rw [hfind]
  cases look stage.registry <;> rfl

/-- The stage that a rendering leaves behind. -/
def Render.left {α : Type} : EStateM.Result Halt Stage α → Stage
  | .ok _ stage | .error _ stage => stage

/-- What is rendered apart leaves the output as it is, and a fault of it is handed back. -/
theorem Render.captured_cases (escape : Bool) (action : Render Unit) (stage : Stage) :
    (∃ c, captured escape action stage =
        .ok c ⟨stage.output, (left (action ⟨⟨escape, {}⟩, stage.registry⟩)).registry⟩) ∨
      captured escape action stage =
        .error .exhausted
          ⟨stage.output, (left (action ⟨⟨escape, {}⟩, stage.registry⟩)).registry⟩ := by
  simp only [captured, attempt]
  cases action ⟨⟨escape, {}⟩, stage.registry⟩ with
  | ok _ after => exact .inl ⟨_, rfl⟩
  | error halt after =>
    cases halt with
    | fault fault => exact .inl ⟨_, rfl⟩
    | exhausted => exact .inr rfl

-- ════════════════════════════════════════════════════════════════════════
-- Executions that carry out a rendering
-- ════════════════════════════════════════════════════════════════════════

namespace Execution

/-- What an execution is where a rendering has ended: only jobs behind it are left. -/
def after (jobs : List Job) (outputs : Outputs) (written : List Written) :
    EStateM.Result Halt Stage Unit → Execution
  | .ok _ stage => ⟨jobs, outputs.set stage.output written, stage.registry, none⟩
  | .error halt stage => ⟨jobs, outputs.set stage.output written, stage.registry, some halt⟩

variable (setting : Setting)

/-- An execution that comes to the result of a rendering. -/
def Ends (e : Execution) (jobs : List Job) (outputs : Outputs)
    (result : EStateM.Result Halt Stage Unit) : Prop :=
  ∃ written, Leads setting e (after jobs outputs written result)

variable {setting} {e e' : Execution} {jobs : List Job} {outputs : Outputs}
  {result : EStateM.Result Halt Stage Unit}

theorem Ends.trans (h : Leads setting e e') (hends : Ends setting e' jobs outputs result) :
    Ends setting e jobs outputs result := by
  obtain ⟨written, hleads⟩ := hends
  exact ⟨written, h.trans hleads⟩

theorem Ends.step (h : e.next setting = some e') (hends : Ends setting e' jobs outputs result) :
    Ends setting e jobs outputs result :=
  hends.trans (.single h)

theorem Ends.of_set {output : Output} {written : List Written}
    (h : Ends setting e jobs (outputs.set output written) result) :
    Ends setting e jobs outputs result := by
  obtain ⟨written', hleads⟩ := h
  refine ⟨written', ?_⟩
  cases result <;> simpa only [after, Outputs.set_set] using hleads

end Execution

/-- A job that waits for what a branch comes to. -/
def Job.IsWaiting : Job → Prop
  | resume _ _ | collect _ _ => True
  | _ => False

/-- A halt passes over jobs that do not wait for it. -/
theorem Execution.leads_of_halt {setting : Setting} {first jobs : List Job}
    (hfirst : ∀ job ∈ first, ¬ job.IsWaiting) (outputs : Outputs) (registry : Registry)
    (halt : Halt) :
    Leads setting ⟨first ++ jobs, outputs, registry, some halt⟩
      ⟨jobs, outputs, registry, some halt⟩ := by
  induction first with
  | nil => exact .refl
  | cons job first ih =>
    obtain ⟨hjob, hrest⟩ := List.forall_mem_cons.1 hfirst
    refine .head ?_ (ih hrest)
    cases job with
    | resume | collect => exact absurd trivial hjob
    | _ => cases halt <;> rfl

section

variable (setting : Setting) (depth : Nat)

/-- The number of partials that end among jobs. -/
def depthOf (jobs : List Job) : Nat :=
  (jobs.filterMap Job.partial?).length

@[simp]
theorem depthOf_append (jobs jobs' : List Job) :
    depthOf (jobs ++ jobs') = depthOf jobs + depthOf jobs' := by
  simp [depthOf]

/-- Jobs that come to a result, where some partials are being rendered. -/
def CarriesAt (jobs : List Job) (outputs : Outputs) (registry : Registry)
    (result : EStateM.Result Halt Stage Unit) : Prop :=
  ∀ rest, depthOf rest = depth →
    Execution.Ends setting ⟨jobs ++ rest, outputs, registry, none⟩ rest outputs result

/-- Jobs that do what a rendering does, where some partials are being rendered. -/
def Carries (jobs : List Job) (action : Render Unit) : Prop :=
  ∀ outputs registry,
    CarriesAt setting depth jobs outputs registry (action ⟨outputs.current, registry⟩)

variable {setting depth}

theorem carriesAt_nil (outputs : Outputs) (registry : Registry) :
    CarriesAt setting depth [] outputs registry (.ok () ⟨outputs.current, registry⟩) := by
  intro rest _
  refine ⟨outputs.written, ?_⟩
  simp only [Execution.after, Outputs.set_current]
  exact .refl

/-- Jobs one behind the other; those that come later do not wait. -/
theorem Carries.append {first jobs : List Job} {x y : Render Unit} {inner : Nat}
    (hx : Carries setting inner first x) (hy : Carries setting depth jobs y)
    (hinner : depthOf jobs + depth = inner) (hjobs : ∀ job ∈ jobs, ¬ job.IsWaiting) :
    Carries setting depth (first ++ jobs) (do x; y) := by
  intro outputs registry rest hrest
  obtain ⟨written, hleads⟩ := hx outputs registry (jobs ++ rest) (by simp [hrest, hinner])
  rw [List.append_assoc, bind_apply]
  cases hresult : x ⟨outputs.current, registry⟩ with
  | ok _ stage =>
    rw [hresult] at hleads
    have hends := hy (outputs.set stage.output written) stage.registry rest hrest
    rw [Outputs.current_set] at hends
    obtain ⟨written', hleads'⟩ := hends.of_set
    exact ⟨written', hleads.trans hleads'⟩
  | error halt stage =>
    rw [hresult] at hleads
    exact ⟨written, hleads.trans (Execution.leads_of_halt hjobs _ _ _)⟩

-- Steps at one job, by the move that it makes.

variable {job : Job} {jobs : List Job} {outputs : Outputs} {registry : Registry}
  {result : EStateM.Result Halt Stage Unit}

theorem next_job (setting : Setting) (outputs : Outputs) (registry : Registry) {job : Job}
    (hpartial : job.partial? = none) (rest : List Job) (hrest : depthOf rest = depth) :
    Execution.next setting ⟨job :: rest, outputs, registry, none⟩ =
      some (Execution.perform setting ⟨job :: rest, outputs, registry, none⟩ rest
        (job.move setting.config registry depth)) := by
  have hdepth : (Execution.mk (job :: rest) outputs registry none).included.length = depth := by
    simp only [Execution.included, List.filterMap_cons, hpartial]
    exact hrest
  simp only [Execution.next, hdepth]

theorem CarriesAt.go (hpartial : job.partial? = none)
    (hmove : job.move setting.config registry depth = .go jobs)
    (h : CarriesAt setting depth jobs outputs registry result) :
    CarriesAt setting depth [job] outputs registry result := by
  intro rest hrest
  refine (h rest hrest).step ?_
  rw [List.singleton_append, next_job _ _ _ hpartial rest hrest, hmove]
  rfl

theorem CarriesAt.fail {fault : RenderError} (hpartial : job.partial? = none)
    (hmove : job.move setting.config registry depth = .fail fault) :
    CarriesAt setting depth [job] outputs registry
      (.error (.fault fault) ⟨outputs.current, registry⟩) := by
  intro rest hrest
  refine ⟨outputs.written, .single ?_⟩
  rw [List.singleton_append, next_job _ _ _ hpartial rest hrest, hmove]
  simp only [Execution.perform, Execution.after, Outputs.set_current]

theorem CarriesAt.write {w : Written} (hpartial : job.partial? = none)
    (hmove : job.move setting.config registry depth = .write w [] none) :
    CarriesAt setting depth [job] outputs registry
      (emit w.piece ⟨outputs.current, registry⟩) := by
  intro rest hrest
  rw [List.singleton_append]
  cases hput : outputs.current.put w.piece with
  | ok output =>
    refine ⟨outputs.written ++ [w], .single ?_⟩
    rw [next_job _ _ _ hpartial rest hrest, hmove]
    simp only [Execution.perform, Outputs.put_eq, hput, Except.map, emit, Execution.after,
      List.nil_append]
  | error fault =>
    refine ⟨outputs.written, .single ?_⟩
    rw [next_job _ _ _ hpartial rest hrest, hmove]
    simp only [Execution.perform, Outputs.put_eq, hput, Except.map, emit, Execution.after,
      Outputs.set_current]

theorem CarriesAt.register {change : Registry → Registry} (hpartial : job.partial? = none)
    (hmove : job.move setting.config registry depth = .register change jobs)
    (h : CarriesAt setting depth jobs outputs (change registry) result) :
    CarriesAt setting depth [job] outputs registry result := by
  intro rest hrest
  refine (h rest hrest).step ?_
  rw [List.singleton_append, next_job _ _ _ hpartial rest hrest, hmove]
  rfl

theorem carries_leave (name : String) : Carries setting depth [.leave name] (pure ()) := by
  intro outputs registry rest hrest
  refine (carriesAt_nil outputs registry rest hrest).step ?_
  rfl

-- ════════════════════════════════════════════════════════════════════════
-- What helpers do
-- ════════════════════════════════════════════════════════════════════════

/-- What is done with the reply of a helper. -/
def Role.write : Role → Reply → Render Unit
  | call escaped, r => r.emit escaped
  | block _ _, _ => pure ()

theorem carries_reply (role : Role) (r : Reply) :
    Carries setting depth [.script role (.reply r)] (role.write r) := by
  intro outputs registry
  cases role with
  | block consequent alternate => exact .go rfl rfl (carriesAt_nil _ _)
  | call escaped =>
    cases r with
    | nothing => exact .go rfl rfl (carriesAt_nil _ _)
    | value v => exact .write (w := .interpolated v escaped) rfl rfl
    | safe s => exact .write (w := .helper (.safe s)) rfl rfl

theorem Carries.at_set {x : Render Unit} (h : Carries setting depth jobs x) (outputs : Outputs)
    (written : List Written) (stage : Stage) {rest : List Job} (hrest : depthOf rest = depth) :
    Execution.Ends setting
      ⟨jobs ++ rest, outputs.set stage.output written, stage.registry, none⟩ rest outputs
      (x stage) := by
  have hends := h (outputs.set stage.output written) stage.registry rest hrest
  rw [Outputs.current_set] at hends
  exact hends.of_set

/-- A branch is rendered, and its helper goes on with the fault that ended it, if any. -/
theorem carries_render {role : Role} {nodes : List Node} {scope : Scope} {x : Render Unit}
    {next : Option RenderError → Script} {f : Option RenderError → Render Unit}
    (hbranch : Carries setting depth [.nodes nodes scope] x)
    (hnext : ∀ fault?, Carries setting depth [.script role (next fault?)] (f fault?)) :
    Carries setting depth [.nodes nodes scope, .resume role next] (attempt x >>= f) := by
  intro outputs registry rest hrest
  obtain ⟨written, hleads⟩ := hbranch outputs registry (.resume role next :: rest) hrest
  refine Execution.Ends.trans hleads ?_
  simp only [bind_apply, attempt]
  cases x ⟨outputs.current, registry⟩ with
  | ok _ stage => exact ((hnext none).at_set outputs written stage hrest).step rfl
  | error halt stage =>
    cases halt with
    | fault fault => exact ((hnext (some fault)).at_set outputs written stage hrest).step rfl
    | exhausted => exact ⟨written, .single rfl⟩

/-- A branch is rendered apart, and its helper goes on with what it came to. -/
theorem carriesAt_capture {role : Role} {nodes : List Node} {scope : Scope} {x : Render Unit}
    {escape : Bool} {next : Captured → Script} {f : Captured → Render Unit}
    (hbranch : Carries setting depth [.nodes nodes scope] x)
    (hnext : ∀ c, Carries setting depth [.script role (next c)] (f c))
    (hpartial : job.partial? = none)
    (hmove : job.move setting.config registry depth =
      .apart escape [.nodes nodes scope, .collect role next]) :
    CarriesAt setting depth [job] outputs registry
      ((captured escape x >>= f) ⟨outputs.current, registry⟩) := by
  intro rest hrest
  obtain ⟨written, hleads⟩ :=
    hbranch (outputs.pushApart escape) registry (.collect role next :: rest) hrest
  have hstep : Execution.next setting ⟨job :: rest, outputs, registry, none⟩ =
      some ⟨.nodes nodes scope :: .collect role next :: rest, outputs.pushApart escape, registry,
        none⟩ := by
    rw [next_job _ _ _ hpartial rest hrest, hmove]
    rfl
  refine (Execution.Ends.trans hleads ?_).step hstep
  have hgoes : ∀ c registry', Execution.Ends setting
      ⟨.script role (next c) :: rest, outputs, registry', none⟩ rest outputs
      (f c ⟨outputs.current, registry'⟩) := fun c registry' => hnext c outputs registry' rest hrest
  simp only [bind_apply, captured, attempt, Outputs.current_pushApart]
  cases x ⟨⟨escape, {}⟩, registry⟩ with
  | ok _ stage =>
    refine (hgoes ⟨stage.output.sink.text, none⟩ stage.registry).step ?_
    simp only [Execution.after, Execution.next, Execution.perform, Job.move,
      Outputs.current_set, Outputs.popApart_set_pushApart, List.singleton_append]
  | error halt stage =>
    cases halt with
    | fault fault =>
      refine (hgoes ⟨stage.output.sink.text, some fault⟩ stage.registry).step ?_
      simp only [Execution.after, Execution.next, Execution.unwind, Outputs.current_set,
        Outputs.popApart_set_pushApart]
    | exhausted =>
      refine ⟨outputs.written, .single ?_⟩
      simp only [Execution.after, Execution.next, Execution.unwind, Outputs.set_current,
        Outputs.popApart_set_pushApart]

/-- What a helper does is carried out as the script says, and its reply is put to use. -/
theorem carries_script (host : Host) (role : Role) (hconfig : host.config = setting.config)
    (hexpand : host.expand = setting.expand)
    (hbranch : ∀ branch scope,
      Carries setting depth [.nodes (role.branch branch) scope] (host.render branch scope))
    (s : Script) :
    Carries setting depth [.script role s] (s.run host >>= role.write) := by
  induction s with
  | reply r => exact carries_reply role r
  | fail fault => exact fun outputs registry => .fail rfl rfl
  | write piece next ih =>
    intro outputs registry rest hrest
    rw [Script.run, bind_assoc, bind_apply, List.singleton_append]
    have hpartial : (Job.script role (.write piece next)).partial? = none := rfl
    have hstep := next_job setting outputs registry hpartial rest hrest
    cases hput : outputs.current.put piece with
    | ok output =>
      simp only [attempt, emit, hput]
      refine ((ih none).at_set outputs (outputs.written ++ [.helper piece])
        ⟨output, registry⟩ hrest).step ?_
      rw [hstep]
      simp only [Job.move, Script.move, Execution.perform, Outputs.put_eq, Written.piece, hput,
        Except.map]
    | error fault =>
      simp only [attempt, emit, hput]
      refine (ih (some fault) outputs registry rest hrest).step ?_
      rw [hstep]
      simp only [Job.move, Script.move, Execution.perform, Outputs.put_eq, Written.piece, hput,
        Except.map]
  | render branch scope next ih =>
    intro outputs registry
    refine .go rfl rfl ?_
    rw [Script.run, bind_assoc]
    exact carries_render (hbranch branch scope) ih outputs registry
  | capture branch scope escape next ih =>
    intro outputs registry
    rw [Script.run, bind_assoc]
    exact carriesAt_capture (hbranch branch scope) ih rfl rfl
  | compile source next ih =>
    intro outputs registry
    refine .go rfl rfl ?_
    rw [Script.run, hconfig]
    exact ih _ outputs registry
  | expand nodes data next ih =>
    intro outputs registry rest hrest
    rw [Script.run, hconfig, hexpand, bind_assoc, bind_apply, List.singleton_append]
    have hpartial : (Job.script role (.expand nodes data next)).partial? = none := rfl
    have hstep := next_job setting outputs registry hpartial rest hrest
    obtain ⟨c, hc⟩ | hc := captured_cases setting.config.escapeHtml
      (setting.expand nodes data) ⟨outputs.current, registry⟩
    · rw [hc]
      refine (ih c outputs _ rest hrest).step ?_
      rw [hstep]
      simp only [Job.move, Script.move, Execution.perform, hc]
    · rw [hc]
      refine ⟨outputs.written, .single ?_⟩
      rw [hstep]
      simp only [Job.move, Script.move, Execution.perform, hc, Execution.after,
        Outputs.set_current]
  | defineHelper name helper next ihHelper ih =>
    intro outputs registry
    exact .register rfl rfl (ih outputs _)
  | defineBlockHelper name helper next ihHelper ih =>
    intro outputs registry
    exact .register rfl rfl (ih outputs _)
  | definePartial name nodes next ih =>
    intro outputs registry
    exact .register rfl rfl (ih outputs _)

-- ════════════════════════════════════════════════════════════════════════
-- Nodes
-- ════════════════════════════════════════════════════════════════════════

theorem carries_each {body : List Node} {x : Scope → Render Unit}
    (h : ∀ scope, Carries setting depth [.nodes body scope] (x scope)) (scopes : List Scope) :
    Carries setting depth [.each body scopes] (scopes.forM x) := by
  induction scopes with
  | nil => exact fun outputs registry => .go rfl rfl (carriesAt_nil _ _)
  | cons scope scopes ih =>
    have happend : Carries setting depth ([.nodes body scope] ++ [.each body scopes])
        (do x scope; scopes.forM x) :=
      (h scope).append ih (Nat.zero_add depth) (by simp [Job.IsWaiting])
    exact fun outputs registry => .go rfl rfl (happend outputs registry)

theorem renderItems_eq_forM (body : Scope → Render Unit) (scope : Scope) (length index : Nat)
    (items : List Value) :
    renderItems body scope length index items =
      ((items.zipIdx index).map fun (v, i) => Scope.item scope v i length).forM body := by
  induction items generalizing index with
  | nil => rfl
  | cons item items ih =>
    simp only [renderItems, ih, List.zipIdx_cons, List.map_cons]
    rfl

theorem renderMembers_eq_forM (body : Scope → Render Unit) (scope : Scope)
    (length position : Nat) (members : List (String × Value)) :
    renderMembers body scope length position members =
      ((members.zipIdx position).map fun ((k, v), i) =>
        Scope.entry scope v k i length).forM body := by
  induction members generalizing position with
  | nil => rfl
  | cons member members ih =>
    simp only [renderMembers, ih, List.zipIdx_cons, List.map_cons]
    rfl

/-- A body is rendered in the scopes of the members, or the other branch if there are none. -/
theorem renderEach_eq (body other : Scope → Render Unit) (scope : Scope) (value? : Option Value) :
    renderEach body other scope value? =
      match scope.visits value? with
      | [] => other scope
      | visited :: scopes => (visited :: scopes).forM body := by
  unfold renderEach Scope.visits
  cases value?.bind Value.entries? with
  | none => rfl
  | some entries =>
    cases entries with
    | sequence items =>
      cases items with
      | nil => rfl
      | cons item items => exact renderItems_eq_forM body scope _ 0 (item :: items)
    | keyed members =>
      cases members with
      | nil => rfl
      | cons member members => exact renderMembers_eq_forM body scope _ 0 (member :: members)

/-- What nodes are rendered with that does what executions do where some partials are being
rendered. -/
structure Env.Agrees (setting : Setting) (depth : Nat) (env : Env) : Prop where
  config : env.config = setting.config
  expand : env.expand = setting.expand
  partials : ∀ name context? scope, Carries setting depth [.node (.partialRef name context?) scope]
    (env.renderPartial name context? scope)

section Block

variable {consequent alternate : List Node} {body other : Scope → Render Unit}
  (hbody : ∀ scope, Carries setting depth [.nodes consequent scope] (body scope))
  (hother : ∀ scope, Carries setting depth [.nodes alternate scope] (other scope))

include hbody hother

theorem carriesAt_each {scope : Scope} {value? : Option Value} (hpartial : job.partial? = none)
    (hmove : job.move setting.config registry depth = .each consequent alternate scope value?) :
    CarriesAt setting depth [job] outputs registry
      (renderEach body other scope value? ⟨outputs.current, registry⟩) := by
  rw [renderEach_eq]
  unfold Move.each at hmove
  cases hvisits : scope.visits value? with
  | nil =>
    simp only [hvisits] at hmove
    exact .go hpartial hmove (hother scope outputs registry)
  | cons visited scopes =>
    simp only [hvisits] at hmove
    exact .go hpartial hmove (carries_each hbody _ outputs registry)

theorem carriesAt_within {scope : Scope} {value? : Option Value} (hpartial : job.partial? = none)
    (hmove : job.move setting.config registry depth = .within consequent alternate scope value?) :
    CarriesAt setting depth [job] outputs registry
      (renderWithin body other scope value? ⟨outputs.current, registry⟩) := by
  unfold renderWithin
  unfold Move.within at hmove
  cases value? with
  | none => exact .go hpartial hmove (hother scope outputs registry)
  | some v =>
    by_cases htrue : v.isTruthy = true
    · simp only [if_pos htrue] at hmove ⊢
      exact .go hpartial hmove (hbody _ outputs registry)
    · simp only [if_neg htrue] at hmove ⊢
      exact .go hpartial hmove (hother scope outputs registry)

theorem carries_runBlock {env : Env} (henv : env.Agrees setting depth) (helper : BlockHelper)
    (scope : Scope) (arguments : List Value) (hasOther : Bool) :
    Carries setting depth
      [.script (.block consequent alternate) (helper scope arguments hasOther)]
      (env.runBlock helper scope arguments hasOther body other) := by
  refine carries_script _ (.block consequent alternate) henv.config henv.expand ?_ _
  intro branch scope'
  cases branch with
  | main => exact hbody scope'
  | other => exact hother scope'

theorem carries_block {env : Env} (henv : env.Agrees setting depth) (kind : BlockKind)
    (name : String) (alternate? : Option (List Node)) (halternate : alternate = alternate?.getD [])
    (scope : Scope) :
    Carries setting depth [.node (.block kind name consequent alternate?) scope]
      (kind.render env name alternate?.isSome body other scope) := by
  subst halternate
  intro outputs registry
  have hrun := fun helper arguments =>
    carries_runBlock hbody hother henv helper scope arguments alternate?.isSome outputs registry
  cases kind with
  | conditional argument =>
    simp only [BlockKind.render]
    split
    · next h => exact .go rfl (by simp [Job.move, Node.move, BlockKind.move, h]) (hbody scope _ _)
    · next h => exact .go rfl (by simp [Job.move, Node.move, BlockKind.move, h]) (hother scope _ _)
  | negated argument =>
    simp only [BlockKind.render]
    split
    · next h => exact .go rfl (by simp [Job.move, Node.move, BlockKind.move, h]) (hother scope _ _)
    · next h => exact .go rfl (by simp [Job.move, Node.move, BlockKind.move, h]) (hbody scope _ _)
  | each argument => exact carriesAt_each hbody hother rfl rfl
  | within argument => exact carriesAt_within hbody hother rfl rfl
  | implicit path =>
    have hget : ∀ f : Stage → Render Unit,
        ((get : Render Stage) >>= f) ⟨outputs.current, registry⟩ =
          f ⟨outputs.current, registry⟩ ⟨outputs.current, registry⟩ := fun _ => rfl
    simp only [BlockKind.render, hget]
    cases hfound : path.name?.bind registry.blockHelper? with
    | some found =>
      exact .go rfl (by simp [Job.move, Node.move, BlockKind.move, hfound]) (hrun found [])
    | none =>
      simp only [renderSection]
      cases hvalue : scope.resolve path with
      | none =>
        exact carriesAt_within hbody hother rfl
          (by simp [Job.move, Node.move, BlockKind.move, hfound, hvalue])
      | some v =>
        cases v with
        | sequence items =>
          exact carriesAt_each hbody hother rfl
            (by simp [Job.move, Node.move, BlockKind.move, hfound, hvalue])
        | _ =>
          exact carriesAt_within hbody hother rfl
            (by simp [Job.move, Node.move, BlockKind.move, hfound, hvalue])
  | helper arguments =>
    simp only [BlockKind.render, bind_apply, find_apply]
    cases hfound : registry.blockHelper? name with
    | none => exact .fail rfl (by simp [Job.move, Node.move, BlockKind.move, hfound])
    | some found =>
      exact .go rfl (by simp [Job.move, Node.move, BlockKind.move, hfound]) (hrun found _)

end Block

theorem carries_call {env : Env} (henv : env.Agrees setting depth) (name : String)
    (arguments : List Param) (escaped : Bool) (scope : Scope) :
    Carries setting depth [.node (.call name arguments escaped) scope]
      (env.renderCall name arguments escaped scope) := by
  intro outputs registry
  simp only [Env.renderCall, bind_apply (find _ _), find_apply]
  cases hfound : registry.helper? name with
  | none => exact .fail rfl (by simp [Job.move, Node.move, hfound])
  | some helper =>
    refine .go rfl (by simp [Job.move, Node.move, hfound]; rfl) ?_
    refine carries_script ⟨env.config, fun _ _ => pure (), env.expand⟩ (.call escaped)
      henv.config henv.expand ?_ _ outputs registry
    exact fun _ _ outputs registry => .go rfl rfl (carriesAt_nil _ _)

mutual

theorem carries_node {env : Env} (henv : env.Agrees setting depth) (n : Node) (scope : Scope) :
    Carries setting depth [.node n scope] (n.render env scope) := by
  cases n with
  | text s => exact fun outputs registry => .write (w := .static s) rfl rfl
  | path p escaped =>
    intro outputs registry
    simp only [Node.render]
    cases hvalue : scope.resolve p with
    | none => exact .go rfl (by simp only [Job.move, Node.move, hvalue]) (carriesAt_nil _ _)
    | some v =>
      exact .write (w := .interpolated v escaped) rfl (by simp only [Job.move, Node.move, hvalue])
  | literal v escaped => exact fun outputs registry => .write (w := .interpolated v escaped) rfl rfl
  | call name arguments escaped => exact carries_call henv name arguments escaped scope
  | block kind name consequent alternate? =>
    exact carries_block (carries_nodes henv consequent) (carries_branch henv alternate?) henv kind
      name alternate? rfl scope
  | partialRef name context? => exact henv.partials name context? scope

theorem carries_nodes {env : Env} (henv : env.Agrees setting depth) (nodes : List Node)
    (scope : Scope) : Carries setting depth [.nodes nodes scope] (renderNodes env nodes scope) := by
  cases nodes with
  | nil => exact fun outputs registry => .go rfl rfl (carriesAt_nil _ _)
  | cons n nodes =>
    have happend : Carries setting depth ([.node n scope] ++ [.nodes nodes scope])
        (do n.render env scope; renderNodes env nodes scope) :=
      (carries_node henv n scope).append (carries_nodes henv nodes scope) (Nat.zero_add depth)
        (by simp [Job.IsWaiting])
    exact fun outputs registry => .go rfl rfl (happend outputs registry)

theorem carries_branch {env : Env} (henv : env.Agrees setting depth)
    (alternate? : Option (List Node)) (scope : Scope) :
    Carries setting depth [.nodes (alternate?.getD []) scope]
      (renderBranch env alternate? scope) := by
  cases alternate? with
  | none => exact fun outputs registry => .go rfl rfl (carriesAt_nil _ _)
  | some nodes => exact carries_nodes henv nodes scope

end

end

-- ════════════════════════════════════════════════════════════════════════
-- Partials and templates
-- ════════════════════════════════════════════════════════════════════════

/-- What nodes are rendered with where some more partials may be included inside one another. -/
abbrev Setting.env (setting : Setting) (left : Nat) : Env :=
  envAt setting.config setting.expand left

section

variable {registry : Registry} {output : Output} {name : String} {context? : Option Param}
  {scope : Scope} {body : List Node}

theorem renderPartial_missing (env : Env) (h : registry.partial? name = none) :
    env.renderPartial name context? scope ⟨output, registry⟩ =
      .error (.fault (.missingPartial name)) ⟨output, registry⟩ := by
  simp only [Env.renderPartial, Render.bind_apply, Render.find_apply, h]

variable (setting : Setting)

theorem renderPartial_zero (h : registry.partial? name = some body) :
    (setting.env 0).renderPartial name context? scope ⟨output, registry⟩ =
      .error (.fault (.partialDepth name setting.config.maxPartialDepth)) ⟨output, registry⟩ := by
  simp only [Env.renderPartial, Render.bind_apply, Render.find_apply, h]
  rfl

theorem renderPartial_succ {left : Nat} (h : registry.partial? name = some body) :
    (setting.env (left + 1)).renderPartial name context? scope ⟨output, registry⟩ =
      renderNodes (setting.env left) body (scope.ofPartial context?) ⟨output, registry⟩ := by
  simp only [Env.renderPartial, Render.bind_apply, Render.find_apply, h]
  cases context? <;> rfl

end

/-- Partials may be included as long as fewer are being rendered than the limit says. -/
theorem agrees_envAt (setting : Setting) {left depth : Nat}
    (hlimit : depth + left = setting.config.maxPartialDepth) :
    (setting.env left).Agrees setting depth := by
  induction left generalizing depth with
  | zero =>
    refine ⟨rfl, rfl, ?_⟩
    intro name context? scope outputs registry
    cases hfound : registry.partial? name with
    | none =>
      rw [renderPartial_missing _ hfound]
      exact .fail rfl (by simp only [Job.move, Node.move, hfound])
    | some body =>
      have hdepth : ¬ depth < setting.config.maxPartialDepth := by omega
      rw [renderPartial_zero setting hfound]
      exact .fail rfl (by simp only [Job.move, Node.move, hfound, if_neg hdepth])
  | succ left ih =>
    refine ⟨rfl, rfl, ?_⟩
    intro name context? scope outputs registry
    cases hfound : registry.partial? name with
    | none =>
      rw [renderPartial_missing _ hfound]
      exact .fail rfl (by simp only [Job.move, Node.move, hfound])
    | some body =>
      have hdepth : depth < setting.config.maxPartialDepth := by omega
      have hinner : depth + 1 + left = setting.config.maxPartialDepth := by omega
      have hbody := carries_nodes (ih hinner) body (scope.ofPartial context?)
      have hleave := hbody.append (carries_leave name) (Nat.add_comm 1 depth)
        (by simp [Job.IsWaiting]) outputs registry
      rw [bind_pure] at hleave
      rw [renderPartial_succ setting hfound]
      exact .go rfl (by simp only [Job.move, Node.move, hfound, if_pos hdepth]; rfl) hleave

/-- The execution of a template does what rendering the template does. -/
theorem carries_template (config : Config) (expansions : Nat) (nodes : List Node) (data : Value) :
    Carries ⟨config, renderTemplate config expansions⟩ 0 [.nodes nodes (.root data)]
      (renderTemplate config (expansions + 1) nodes data) :=
  carries_nodes (agrees_envAt ⟨config, renderTemplate config expansions⟩ (Nat.zero_add _)) nodes
    (.root data)

/-- A template of an engine is rendered by an execution that comes to an end. -/
theorem Engine.exists_leads (e : Engine) (nodes : List Node) (data : Value) (sink : Sink) :
    ∃ final, Execution.Leads e.setting (e.start nodes data sink) final ∧ final.jobs = [] ∧
      final.outputs.apart = [] ∧
      e.renderValue nodes data sink =
        ⟨final.outcome, final.outputs.main.sink, { e with registry := final.registry }⟩ := by
  obtain ⟨written, hleads⟩ := carries_template e.config (maxExpansions - 1) nodes data
    { main := ⟨e.config.escapeHtml, sink⟩ } e.registry [] rfl
  refine ⟨_, hleads, ?_⟩
  unfold Engine.renderValue
  simp only [Outputs.current]
  change _ ∧ _ ∧ (match renderTemplate e.config (maxExpansions - 1 + 1) nodes data _ with
    | .ok _ stage => _ | .error halt stage => _) = _
  cases renderTemplate e.config (maxExpansions - 1 + 1) nodes data
    ⟨⟨e.config.escapeHtml, sink⟩, e.registry⟩ with
  | ok _ stage => exact ⟨rfl, rfl, rfl⟩
  | error halt stage => exact ⟨rfl, rfl, rfl⟩

/-- What the execution that renders a template has come to at its end. -/
structure Engine.Renders (e : Engine) (nodes : List Node) (data : Value) (sink : Sink)
    (final : Execution) : Prop where
  leads : Execution.Leads e.setting (e.start nodes data sink) final
  done : final.jobs = []

namespace Engine.Renders

variable {e : Engine} {nodes : List Node} {data : Value} {sink : Sink} {final reached : Execution}

/-- There is one end only, and it is what the rendering gives. -/
theorem renderValue_eq (h : e.Renders nodes data sink final) :
    e.renderValue nodes data sink =
      ⟨final.outcome, final.outputs.main.sink, { e with registry := final.registry }⟩ := by
  obtain ⟨final', hleads, hdone, -, heq⟩ := e.exists_leads nodes data sink
  rwa [← Execution.eq_of_leads_of_jobs (h.leads.final hleads hdone) h.done]

/-- Whatever the execution comes to lies on the way to its end. -/
theorem of_leads (h : e.Renders nodes data sink final)
    (hreached : Execution.Leads e.setting (e.start nodes data sink) reached) :
    Execution.Leads e.setting reached final :=
  hreached.final h.leads h.done

end Engine.Renders

theorem Engine.exists_renders (e : Engine) (nodes : List Node) (data : Value) (sink : Sink) :
    ∃ final, e.Renders nodes data sink final := by
  obtain ⟨final, hleads, hdone, -⟩ := e.exists_leads nodes data sink
  exact ⟨final, hleads, hdone⟩

end TextTemplate

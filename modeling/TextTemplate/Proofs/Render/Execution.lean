import Mathlib.Logic.Relation
import TextTemplate.Engine

/-!
# Rendering step by step

An execution keeps what is still to be done as a row of jobs, together with the open outputs and the
registry. A step takes the first job: it writes or registers something, puts other jobs in its
place, or halts. A halt takes jobs away, one by one, until a helper is found that waits for what its
branch came to. The partials that are being rendered are those whose end is among the jobs; their
number is not kept anywhere else, and nothing in an execution bounds the number of its steps.

## Main definitions

- `Written` — what is written to the output of a template, and where it comes from
- `Outputs` — the output of the template, and those of the branches that are rendered apart
- `Job`, `Move` — something to be done, and what a step makes of it
- `Execution.next` — one step
- `Execution.Leads` — any number of steps
- `Engine.start` — the execution that renders a template
-/

namespace TextTemplate

-- ════════════════════════════════════════════════════════════════════════
-- Outputs
-- ════════════════════════════════════════════════════════════════════════

/-- What is written to the output of a template: a text of the template, the value of a path, of a
literal or of a call of a helper, or what a helper writes or hands back as safe. -/
inductive Written
  | static (s : String)
  | interpolated (v : Value) (escaped : Bool)
  | helper (piece : Piece)

/-- The piece that is put to the output. -/
def Written.piece : Written → Piece
  | static s => .safe s
  | interpolated v escaped => .value v escaped
  | helper piece => piece

/-- The chunk that it is written as. -/
def Written.chunk (escape : Bool) (w : Written) : String :=
  w.piece.chunk escape

/-- The sink with more chunks, whether it accepts them or not. -/
def Sink.append (s : Sink) (chunks : List String) : Sink :=
  { s with chunks := chunks.reverse ++ s.chunks }

namespace Sink

@[simp]
theorem append_nil (s : Sink) : s.append [] = s := rfl

theorem append_append (s : Sink) (chunks more : List String) :
    (s.append chunks).append more = s.append (chunks ++ more) := by
  simp [append]

@[simp]
theorem log_append (s : Sink) (chunks : List String) : (s.append chunks).log = s.log ++ chunks := by
  simp [append, log]

@[simp]
theorem text_append (s : Sink) (chunks : List String) :
    (s.append chunks).text = s.text ++ String.join chunks := by
  simp only [text, log_append]
  simp [append, String.append_assoc]

/-- A chunk is taken if it is accepted, and refused otherwise. -/
theorem write_eq (s : Sink) (chunk : String) :
    s.write chunk = if s.accepts chunk then .ok (s.append [chunk]) else .error .write := rfl

/-- A sink without a limit refuses nothing. -/
theorem accepts_of_limit_eq_none {s : Sink} (h : s.limit = none) (chunk : String) :
    s.accepts chunk = true := by
  simp only [accepts, h]

end Sink

theorem Output.put_eq (out : Output) (piece : Piece) :
    out.put piece =
      if out.sink.accepts (piece.chunk out.escape) then
        .ok { out with sink := out.sink.append [piece.chunk out.escape] }
      else .error .write := by
  simp only [put, Sink.write_eq]
  split <;> rfl

/-- The output of a template with what was written to it, and the outputs of the branches that are
being rendered apart, innermost first. -/
structure Outputs where
  main : Output
  written : List Written := []
  apart : List Output := []

namespace Outputs

/-- The output that is written to. -/
def current (o : Outputs) : Output :=
  match o.apart with
  | [] => o.main
  | output :: _ => output

/-- Writes to the current output, unless its sink refuses it. -/
def put (o : Outputs) (w : Written) : Except RenderError Outputs :=
  match o.apart with
  | [] => (o.main.put w.piece).map fun main => { o with main, written := o.written ++ [w] }
  | output :: apart => (output.put w.piece).map fun output => { o with apart := output :: apart }

/-- What is written goes to the output of the template if nothing is rendered apart. -/
theorem put_of_apart_eq_nil {o : Outputs} (h : o.apart = []) (w : Written) :
    o.put w =
      if o.main.sink.accepts (w.chunk o.main.escape) then
        .ok { o with
          main := { o.main with sink := o.main.sink.append [w.chunk o.main.escape] }
          written := o.written ++ [w] }
      else .error .write := by
  unfold Written.chunk
  simp only [put, h, Output.put_eq]
  split <;> rfl

/-- Whatever is rendered apart does not come to the output of the template. -/
theorem put_of_apart_eq_cons {o : Outputs} {inner : Output} {apart : List Output}
    (h : o.apart = inner :: apart) (w : Written) :
    o.put w =
      if inner.sink.accepts (w.chunk inner.escape) then
        .ok { o with
          apart := { inner with sink := inner.sink.append [w.chunk inner.escape] } :: apart }
      else .error .write := by
  unfold Written.chunk
  simp only [put, h, Output.put_eq]
  split <;> rfl

/-- What is written goes to the sink of the template, or to the innermost one apart. -/
theorem ok_of_put {o o' : Outputs} {w : Written} (h : o.put w = .ok o') :
    (o.apart = [] ∧ o' = { o with
        main := { o.main with sink := o.main.sink.append [w.chunk o.main.escape] }
        written := o.written ++ [w] }) ∨
      ∃ inner apart, o.apart = inner :: apart ∧ o' = { o with
        apart := { inner with sink := inner.sink.append [w.chunk inner.escape] } :: apart } := by
  obtain ⟨main, written, apart⟩ := o
  cases apart with
  | nil =>
    rw [put_of_apart_eq_nil rfl] at h
    split at h
    · exact .inl ⟨rfl, (Except.ok.inj h).symm⟩
    · cases h
  | cons inner apart =>
    rw [put_of_apart_eq_cons rfl] at h
    split at h
    · exact .inr ⟨inner, apart, rfl, (Except.ok.inj h).symm⟩
    · cases h

/-- All that can go wrong with a write is that it is refused. -/
theorem eq_write_of_put {o : Outputs} {w : Written} {fault : RenderError}
    (h : o.put w = .error fault) : fault = .write := by
  cases hapart : o.apart with
  | nil =>
    rw [put_of_apart_eq_nil hapart] at h
    split at h
    · cases h
    · exact (Except.error.inj h).symm
  | cons inner apart =>
    rw [put_of_apart_eq_cons hapart] at h
    split at h
    · cases h
    · exact (Except.error.inj h).symm

/-- Begins to render apart. -/
def pushApart (o : Outputs) (escape : Bool) : Outputs :=
  { o with apart := ⟨escape, {}⟩ :: o.apart }

/-- Ends to render apart. -/
def popApart (o : Outputs) : Outputs :=
  { o with apart := o.apart.tail }

end Outputs

-- ════════════════════════════════════════════════════════════════════════
-- Jobs
-- ════════════════════════════════════════════════════════════════════════

/-- What a helper runs for: a call that its reply is written for, or a block with its branches, of
which an absent one has no nodes. -/
inductive Role
  | call (escaped : Bool)
  | block (consequent alternate : List Node)

/-- The nodes of a branch; a call has none. -/
def Role.branch : Role → Branch → List Node
  | call _, _ => []
  | block consequent _, .main => consequent
  | block _ alternate, .other => alternate

/-- Something to be done. -/
inductive Job
  /-- Renders nodes in a scope. -/
  | nodes (nodes : List Node) (scope : Scope)
  /-- Renders a node in a scope. -/
  | node (node : Node) (scope : Scope)
  /-- Renders a body in each of some scopes. -/
  | each (body : List Node) (scopes : List Scope)
  /-- Ends a partial. -/
  | leave (name : String)
  /-- Carries out what a helper does. -/
  | script (role : Role) (script : Script)
  /-- Goes on with what a helper does when a branch has been rendered. -/
  | resume (role : Role) (next : Option RenderError → Script)
  /-- Goes on with what a helper does when a branch has been rendered apart. -/
  | collect (role : Role) (next : Captured → Script)

/-- The partial that a job ends. -/
def Job.partial? : Job → Option String
  | leave name => some name
  | _ => none

/-- What a step makes of a job. -/
inductive Move
  /-- Puts other jobs in its place. -/
  | go (jobs : List Job)
  /-- Writes something, and goes on with other jobs. If it is refused, the execution goes on in the
  given way, or halts if none is given. -/
  | write (w : Written) (jobs : List Job) (refused? : Option (RenderError → List Job))
  /-- Changes the registry, and goes on with other jobs. -/
  | register (change : Registry → Registry) (jobs : List Job)
  /-- Goes on with jobs that are rendered apart. -/
  | apart (escape : Bool) (jobs : List Job)
  /-- Ends to render apart, and goes on with what is made of the text. -/
  | collect (next : Captured → List Job)
  /-- Renders a template of its own apart, all at once, and goes on with what is made of it. -/
  | expand (nodes : List Node) (data : Value) (next : Captured → List Job)
  /-- Halts with a fault. -/
  | fail (fault : RenderError)

/-- The scopes in which a body is rendered for the members of a value, in order. -/
def Scope.visits (scope : Scope) (value? : Option Value) : List Scope :=
  match value?.bind Value.entries? with
  | some (.sequence items) =>
    items.zipIdx.map fun (member, index) => .item scope member index items.length
  | some (.keyed members) =>
    members.zipIdx.map fun ((key, value), position) =>
      .entry scope value key position members.length
  | none => []

/-- Renders the main branch for every member of a value, or the other one if there is none. -/
def Move.each (consequent alternate : List Node) (scope : Scope) (value? : Option Value) : Move :=
  match scope.visits value? with
  | [] => .go [.nodes alternate scope]
  | visited :: scopes => .go [.each consequent (visited :: scopes)]

/-- Renders the main branch within a true value, or the other one if it is not true. -/
def Move.within (consequent alternate : List Node) (scope : Scope) (value? : Option Value) :
    Move :=
  match value? with
  | some v =>
    if v.isTruthy then .go [.nodes consequent (.child scope v)] else .go [.nodes alternate scope]
  | none => .go [.nodes alternate scope]

/-- The step at a block. -/
def BlockKind.move (registry : Registry) (name : String) (consequent alternate : List Node)
    (hasOther : Bool) (scope : Scope) : BlockKind → Move
  | conditional argument =>
    if Value.isPresentAndTruthy (argument.value? scope) then .go [.nodes consequent scope]
    else .go [.nodes alternate scope]
  | negated argument =>
    if Value.isPresentAndTruthy (argument.value? scope) then .go [.nodes alternate scope]
    else .go [.nodes consequent scope]
  | each argument => .each consequent alternate scope (argument.value? scope)
  | within argument => .within consequent alternate scope (argument.value? scope)
  | implicit path =>
    match path.name?.bind registry.blockHelper? with
    | some found => .go [.script (.block consequent alternate) (found scope [] hasOther)]
    | none =>
      match scope.resolve path with
      | some (.sequence items) => .each consequent alternate scope (some (.sequence items))
      | value? => .within consequent alternate scope value?
  | helper arguments =>
    match registry.blockHelper? name with
    | some found =>
      .go [.script (.block consequent alternate)
        (found scope (arguments.map (Param.value scope)) hasOther)]
    | none => .fail (.missingHelper name)

/-- The scope that a partial is rendered in. -/
def Scope.ofPartial (scope : Scope) : Option Param → Scope
  | none => scope
  | some param => .child scope (param.value scope)

/-- The step at a node, with a number of partials that are being rendered. -/
def Node.move (config : Config) (registry : Registry) (depth : Nat) (scope : Scope) : Node → Move
  | text s => .write (.static s) [] none
  | path p escaped =>
    match scope.resolve p with
    | some v => .write (.interpolated v escaped) [] none
    | none => .go []
  | literal v escaped => .write (.interpolated v escaped) [] none
  | call name arguments escaped =>
    match registry.helper? name with
    | some found =>
      .go [.script (.call escaped) (found scope (arguments.map (Param.value scope)))]
    | none => .fail (.missingHelper name)
  | block kind name consequent alternate? =>
    kind.move registry name consequent (alternate?.getD []) alternate?.isSome scope
  | partialRef name context? =>
    match registry.partial? name with
    | some body =>
      if depth < config.maxPartialDepth then
        .go [.nodes body (scope.ofPartial context?), .leave name]
      else .fail (.partialDepth name config.maxPartialDepth)
    | none => .fail (.missingPartial name)

/-- The step at a reply: a call writes it, a block does not. -/
def Role.finish : Role → Reply → Move
  | call escaped, .value v => .write (.interpolated v escaped) [] none
  | call _, .safe s => .write (.helper (.safe s)) [] none
  | call _, .nothing => .go []
  | block _ _, _ => .go []

/-- The step at what a helper does. -/
def Script.move (config : Config) (role : Role) : Script → Move
  | reply r => role.finish r
  | fail fault => .fail fault
  | write piece next =>
    .write (.helper piece) [.script role (next none)]
      (some fun fault => [.script role (next (some fault))])
  | render branch scope next => .go [.nodes (role.branch branch) scope, .resume role next]
  | capture branch scope escape next =>
    .apart escape [.nodes (role.branch branch) scope, .collect role next]
  | compile source next =>
    .go [.script role (next (parseTemplate config.maxBlockDepth source))]
  | expand nodes data next => .expand nodes data fun c => [.script role (next c)]
  | defineHelper name helper next => .register (·.addHelper name helper) [.script role next]
  | defineBlockHelper name helper next =>
    .register (·.addBlockHelper name helper) [.script role next]
  | definePartial name nodes next => .register (·.addPartial name nodes) [.script role next]

/-- The step at a job. -/
def Job.move (config : Config) (registry : Registry) (depth : Nat) : Job → Move
  | nodes [] _ => .go []
  | nodes (n :: ns) scope => .go [.node n scope, .nodes ns scope]
  | node n scope => n.move config registry depth scope
  | each _ [] => .go []
  | each body (scope :: scopes) => .go [.nodes body scope, .each body scopes]
  | leave _ => .go []
  | script role s => s.move config role
  | resume role next => .go [.script role (next none)]
  | collect role next => .collect fun c => [.script role (next c)]

-- ════════════════════════════════════════════════════════════════════════
-- Executions
-- ════════════════════════════════════════════════════════════════════════

/-- What a rendering cannot change: the choices of the engine, and how a template of its own is
rendered for a helper. -/
structure Setting where
  config : Config
  expand : List Node → Value → Render Unit

/-- A rendering on its way: the jobs that are left, the outputs, the registry, and what halts it. -/
structure Execution where
  jobs : List Job
  outputs : Outputs
  registry : Registry
  halt? : Option Halt := none

namespace Execution

variable (setting : Setting)

/-- The partials that are being rendered, innermost first. -/
def included (e : Execution) : List String :=
  e.jobs.filterMap Job.partial?

/-- Makes a move, with the jobs that are left behind it. -/
def perform (e : Execution) (jobs : List Job) : Move → Execution
  | .go first => { e with jobs := first ++ jobs }
  | .write w first refused? =>
    match e.outputs.put w, refused? with
    | .ok outputs, _ => { e with jobs := first ++ jobs, outputs }
    | .error fault, some refused => { e with jobs := refused fault ++ jobs }
    | .error fault, none => { e with jobs, halt? := some (.fault fault) }
  | .register change first => { e with jobs := first ++ jobs, registry := change e.registry }
  | .apart escape first => { e with jobs := first ++ jobs, outputs := e.outputs.pushApart escape }
  | .collect next =>
    { e with
      jobs := next ⟨e.outputs.current.sink.text, none⟩ ++ jobs
      outputs := e.outputs.popApart }
  | .expand nodes data next =>
    match Render.captured setting.config.escapeHtml (setting.expand nodes data)
      ⟨e.outputs.current, e.registry⟩ with
    | .ok c stage => { e with jobs := next c ++ jobs, registry := stage.registry }
    | .error halt stage => { e with jobs, registry := stage.registry, halt? := some halt }
  | .fail fault => { e with jobs, halt? := some (.fault fault) }

/-- Takes away a job from an execution that halts. -/
def unwind (e : Execution) (jobs : List Job) : Halt → Job → Execution
  | .fault fault, .resume role next =>
    { e with jobs := .script role (next (some fault)) :: jobs, halt? := none }
  | .fault fault, .collect role next =>
    { e with
      jobs := .script role (next ⟨e.outputs.current.sink.text, some fault⟩) :: jobs
      outputs := e.outputs.popApart
      halt? := none }
  | .exhausted, .collect _ _ => { e with jobs, outputs := e.outputs.popApart }
  | _, _ => { e with jobs }

/-- One step, if there is still something to be done. -/
def next (e : Execution) : Option Execution :=
  match e.jobs, e.halt? with
  | [], _ => none
  | job :: jobs, none =>
    some (e.perform setting jobs (job.move setting.config e.registry e.included.length))
  | job :: jobs, some halt => some (e.unwind jobs halt job)

/-- Any number of steps. -/
abbrev Leads : Execution → Execution → Prop :=
  Relation.ReflTransGen fun e e' => e.next setting = some e'

/-- How an execution without jobs has ended. -/
def outcome (e : Execution) : Except Halt Unit :=
  match e.halt? with
  | none => .ok ()
  | some halt => .error halt

variable {setting}

theorem outcome_eq_error_iff {e : Execution} {halt : Halt} :
    e.outcome = .error halt ↔ e.halt? = some halt := by
  unfold outcome
  cases e.halt? <;> simp

theorem next_eq_none_iff {e : Execution} : e.next setting = none ↔ e.jobs = [] := by
  obtain ⟨jobs, outputs, registry, halt?⟩ := e
  cases jobs <;> cases halt? <;> simp [next]

/-- A step makes the move of the first job, or takes it away. -/
theorem next_cases {e e' : Execution} (h : e.next setting = some e') :
    ∃ job jobs, e.jobs = job :: jobs ∧
      ((e.halt? = none ∧
          e' = e.perform setting jobs (job.move setting.config e.registry e.included.length)) ∨
        ∃ halt, e.halt? = some halt ∧ e' = e.unwind jobs halt job) := by
  obtain ⟨jobs, outputs, registry, halt?⟩ := e
  cases jobs with
  | nil => simp [next] at h
  | cons job jobs =>
    cases halt? with
    | none => exact ⟨job, jobs, rfl, .inl ⟨rfl, (Option.some.inj h).symm⟩⟩
    | some halt => exact ⟨job, jobs, rfl, .inr ⟨halt, rfl, (Option.some.inj h).symm⟩⟩

/-- What every step keeps is kept by any number of steps. -/
theorem Leads.keeps {P : Execution → Prop} {e e' : Execution} (h : Leads setting e e')
    (hstep : ∀ {e e' : Execution}, P e → e.next setting = some e' → P e') (he : P e) : P e' := by
  induction h with
  | refl => exact he
  | tail _ hnext ih => exact hstep ih hnext

/-- An execution without jobs stays as it is. -/
theorem eq_of_leads_of_jobs {e e' : Execution} (h : Leads setting e e') (hjobs : e.jobs = []) :
    e' = e := by
  obtain rfl | ⟨_, hnext, -⟩ := h.cases_head
  · rfl
  · rw [next_eq_none_iff.2 hjobs] at hnext
    cases hnext

/-- Steps are determined, so whatever an execution comes to lies on the way to its end. -/
theorem Leads.final {e e' final : Execution} (h : Leads setting e e')
    (hfinal : Leads setting e final) (hjobs : final.jobs = []) : Leads setting e' final := by
  have hunique : Relator.RightUnique fun e e' : Execution => e.next setting = some e' := by
    intro _ _ _ h₁ h₂
    exact Option.some.inj (h₁.symm.trans h₂)
  obtain hleads | hleads := Relation.ReflTransGen.total_of_right_unique hunique h hfinal
  · exact hleads
  · rw [eq_of_leads_of_jobs hleads hjobs]

end Execution

/-- The setting in which an engine renders templates. -/
def Engine.setting (e : Engine) : Setting :=
  ⟨e.config, renderTemplate e.config (maxExpansions - 1)⟩

/-- The execution that renders nodes against data into a sink. -/
def Engine.start (e : Engine) (nodes : List Node) (data : Value) (sink : Sink) : Execution where
  jobs := [.nodes nodes (.root data)]
  outputs := { main := ⟨e.config.escapeHtml, sink⟩ }
  registry := e.registry

end TextTemplate

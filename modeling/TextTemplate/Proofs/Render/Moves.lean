import TextTemplate.Proofs.Render.Execution

/-!
# What a step can do

Some jobs do something of their own: an inclusion, a script that writes, one that renders a branch,
one that has it rendered apart, one that renders a template of its own, one that fails, and the end
of what is rendered apart. The moves of all others are plain: they put jobs in the place of the
first one that neither wait for a branch nor end a partial, or write something and halt if it is
refused, or find a helper missing.

## Main definitions

- `Job.IsPlain`, `Move.IsPlain` — jobs that neither wait nor end a partial, and moves that put such
  jobs
- `BlockKind.Enters`, `BlockKind.Step` — where a block renders its main branch, and what its step
  can be
- `Job.Special` — the jobs that do something of their own
-/

namespace TextTemplate

/-- A job that neither waits for a branch nor ends a partial. -/
def Job.IsPlain : Job → Prop
  | nodes _ _ | node _ _ | each _ _ | script _ _ => True
  | leave _ | resume _ _ | collect _ _ => False

/-- A move that puts plain jobs, or writes and puts none, or finds a helper missing. -/
def Move.IsPlain : Move → Prop
  | go jobs | register _ jobs => ∀ job ∈ jobs, job.IsPlain
  | write _ jobs refused? => jobs = [] ∧ refused? = none
  | fail fault => ∃ name, fault = .missingHelper name
  | apart _ _ | collect _ | expand _ _ _ => False

/-- The jobs whose moves are not plain. -/
inductive Job.Special : Job → Prop
  | inclusion (name : String) (context? : Option Param) (scope : Scope) :
      Special (.node (.partialRef name context?) scope)
  | failing (role : Role) (fault : RenderError) : Special (.script role (.fail fault))
  | writing (role : Role) (piece : Piece) (next : Option RenderError → Script) :
      Special (.script role (.write piece next))
  | rendering (role : Role) (branch : Branch) (scope : Scope)
      (next : Option RenderError → Script) : Special (.script role (.render branch scope next))
  | capturing (role : Role) (branch : Branch) (scope : Scope) (escape : Bool)
      (next : Captured → Script) : Special (.script role (.capture branch scope escape next))
  | expanding (role : Role) (nodes : List Node) (data : Value) (next : Captured → Script) :
      Special (.script role (.expand nodes data next))
  | collecting (role : Role) (next : Captured → Script) : Special (.collect role next)

namespace Move

theorem isPlain_go_nil : (Move.go []).IsPlain := by
  intro job hjob
  cases hjob

theorem isPlain_go {job : Job} (h : job.IsPlain) : (Move.go [job]).IsPlain := by
  intro job' hjob
  rwa [List.mem_singleton.1 hjob]

theorem isPlain_write (w : Written) : (Move.write w [] none).IsPlain :=
  ⟨rfl, rfl⟩

end Move

-- ════════════════════════════════════════════════════════════════════════
-- Blocks
-- ════════════════════════════════════════════════════════════════════════

namespace BlockKind

/-- The scopes in which a block renders its main branch, if it runs no helper. -/
inductive Enters (scope : Scope) : BlockKind → Scope → Prop
  | conditional {argument : Param}
      (htrue : Value.isPresentAndTruthy (argument.value? scope) = true) :
      Enters scope (.conditional argument) scope
  | negated {argument : Param}
      (hfalse : ¬ Value.isPresentAndTruthy (argument.value? scope) = true) :
      Enters scope (.negated argument) scope
  | each {argument : Param} {visited : Scope} (h : visited ∈ scope.visits (argument.value? scope)) :
      Enters scope (.each argument) visited
  | within {argument : Param} {v : Value} (h : argument.value? scope = some v)
      (htrue : v.isTruthy = true) : Enters scope (.within argument) (.child scope v)
  | implicitEach {path : Path} {items : List Value} {visited : Scope}
      (h : scope.resolve path = some (.sequence items))
      (hvisited : visited ∈ scope.visits (some (.sequence items))) :
      Enters scope (.implicit path) visited
  | implicitWithin {path : Path} {v : Value} (h : scope.resolve path = some v)
      (htrue : v.isTruthy = true) : Enters scope (.implicit path) (.child scope v)

/-- The kinds of block that a block helper may run for. -/
def RunsHelper : BlockKind → Prop
  | implicit _ | helper _ => True
  | conditional _ | negated _ | each _ | within _ => False

/-- What the step at a block can be. -/
inductive Step (registry : Registry) (name : String) (consequent alternate : List Node)
    (hasOther : Bool) (scope : Scope) (kind : BlockKind) : Move → Prop
  | enter {inner : Scope} (h : kind.Enters scope inner) :
      Step registry name consequent alternate hasOther scope kind (.go [.nodes consequent inner])
  | visit {scopes : List Scope} (h : ∀ inner ∈ scopes, kind.Enters scope inner) :
      Step registry name consequent alternate hasOther scope kind (.go [.each consequent scopes])
  | other :
      Step registry name consequent alternate hasOther scope kind (.go [.nodes alternate scope])
  | run {found : BlockHelper} {helperName : String} (arguments : List Value)
      (hkind : kind.RunsHelper) (h : registry.blockHelper? helperName = some found) :
      Step registry name consequent alternate hasOther scope kind
        (.go [.script (.block consequent alternate) (found scope arguments hasOther)])
  | missing {arguments : List Param} (hkind : kind = .helper arguments)
      (h : registry.blockHelper? name = none) :
      Step registry name consequent alternate hasOther scope kind (.fail (.missingHelper name))

section

variable {registry : Registry} {name : String} {consequent alternate : List Node}
  {hasOther : Bool} {scope : Scope} {kind : BlockKind}

theorem step_each {value? : Option Value}
    (h : ∀ visited ∈ scope.visits value?, kind.Enters scope visited) :
    kind.Step registry name consequent alternate hasOther scope
      (.each consequent alternate scope value?) := by
  unfold Move.each
  split
  · exact .other
  · next hvisits => exact .visit (hvisits ▸ h)

theorem step_within {value? : Option Value}
    (h : ∀ v, value? = some v → v.isTruthy = true → kind.Enters scope (.child scope v)) :
    kind.Step registry name consequent alternate hasOther scope
      (.within consequent alternate scope value?) := by
  unfold Move.within
  split
  · next v =>
    split
    · next htrue => exact .enter (h v rfl htrue)
    · exact .other
  · exact .other

end

/-- The step at a block is one of those that it can be. -/
theorem step_move (registry : Registry) (name : String) (consequent alternate : List Node)
    (hasOther : Bool) (scope : Scope) (kind : BlockKind) :
    kind.Step registry name consequent alternate hasOther scope
      (kind.move registry name consequent alternate hasOther scope) := by
  cases kind with
  | conditional argument =>
    simp only [move]
    split
    · next htrue => exact .enter (.conditional htrue)
    · exact .other
  | negated argument =>
    simp only [move]
    split
    · exact .other
    · next hfalse => exact .enter (.negated hfalse)
  | each argument => exact step_each fun visited hvisited => .each hvisited
  | within argument => exact step_within fun v hv htrue => .within hv htrue
  | implicit path =>
    simp only [move]
    split
    · next found hfound =>
      obtain ⟨helperName, -, hname⟩ := Option.bind_eq_some_iff.1 hfound
      exact .run [] trivial hname
    · split
      · next items hitems => exact step_each fun visited hvisited => .implicitEach hitems hvisited
      · exact step_within fun v hv htrue => .implicitWithin hv htrue
  | helper arguments =>
    simp only [move]
    split
    · next found hfound => exact .run _ trivial hfound
    · next hnone => exact .missing rfl hnone

end BlockKind

section

variable (config : Config) (registry : Registry)

theorem BlockKind.isPlain_move (name : String) (consequent alternate : List Node)
    (hasOther : Bool) (scope : Scope) (kind : BlockKind) :
    (kind.move registry name consequent alternate hasOther scope).IsPlain := by
  have hstep := kind.step_move registry name consequent alternate hasOther scope
  generalize kind.move registry name consequent alternate hasOther scope = move at hstep ⊢
  cases hstep with
  | enter | visit | other | run => exact Move.isPlain_go trivial
  | missing => exact ⟨name, rfl⟩

theorem Node.isPlain_move_or_special (depth : Nat) (scope : Scope) (n : Node) :
    (n.move config registry depth scope).IsPlain ∨ (Job.node n scope).Special := by
  cases n with
  | text s => exact .inl (Move.isPlain_write _)
  | path p escaped =>
    simp only [Node.move]
    split
    · exact .inl (Move.isPlain_write _)
    · exact .inl Move.isPlain_go_nil
  | literal v escaped => exact .inl (Move.isPlain_write _)
  | call name arguments escaped =>
    simp only [Node.move]
    split
    · exact .inl (Move.isPlain_go trivial)
    · exact .inl ⟨name, rfl⟩
  | block kind name consequent alternate? => exact .inl (BlockKind.isPlain_move _ _ _ _ _ _ _)
  | partialRef name context? => exact .inr (.inclusion name context? scope)

theorem Role.isPlain_finish (role : Role) (reply : Reply) : (role.finish reply).IsPlain := by
  cases role with
  | block consequent alternate => exact Move.isPlain_go_nil
  | call escaped =>
    cases reply with
    | nothing => exact Move.isPlain_go_nil
    | value v => exact Move.isPlain_write _
    | safe s => exact Move.isPlain_write _

theorem Script.isPlain_move_or_special (role : Role) (s : Script) :
    (s.move config role).IsPlain ∨ (Job.script role s).Special := by
  have hone : ∀ s', ∀ job ∈ [Job.script role s'], job.IsPlain := by
    intro s' job hjob
    rw [List.mem_singleton.1 hjob]
    trivial
  cases s with
  | reply r => exact .inl (role.isPlain_finish r)
  | fail fault => exact .inr (.failing role fault)
  | write piece next => exact .inr (.writing role piece next)
  | render branch scope next => exact .inr (.rendering role branch scope next)
  | capture branch scope escape next => exact .inr (.capturing role branch scope escape next)
  | compile source next => exact .inl (hone _)
  | expand nodes data next => exact .inr (.expanding role nodes data next)
  | defineHelper name helper next => exact .inl (hone _)
  | defineBlockHelper name helper next => exact .inl (hone _)
  | definePartial name nodes next => exact .inl (hone _)

/-- The moves of all jobs are plain, apart from those that do something of their own. -/
theorem Job.isPlain_move_or_special (depth : Nat) (job : Job) :
    (job.move config registry depth).IsPlain ∨ job.Special := by
  cases job with
  | nodes ns scope =>
    cases ns with
    | nil => exact .inl Move.isPlain_go_nil
    | cons n ns => exact .inl (by simp [move, Move.IsPlain, IsPlain])
  | node n scope => exact Node.isPlain_move_or_special config registry depth scope n
  | each body scopes =>
    cases scopes with
    | nil => exact .inl Move.isPlain_go_nil
    | cons scope scopes => exact .inl (by simp [move, Move.IsPlain, IsPlain])
  | leave name => exact .inl Move.isPlain_go_nil
  | script role s => exact Script.isPlain_move_or_special config role s
  | resume role next => exact .inl (Move.isPlain_go trivial)
  | collect role next => exact .inr (.collecting role next)

/-- An inclusion puts the body of a partial, or fails. -/
theorem Job.move_inclusion (depth : Nat) (name : String) (context? : Option Param)
    (scope : Scope) :
    (∃ body, registry.partial? name = some body ∧ depth < config.maxPartialDepth ∧
        (Job.node (.partialRef name context?) scope).move config registry depth =
          .go [.nodes body (scope.ofPartial context?), .leave name]) ∨
      (∃ body, registry.partial? name = some body ∧ config.maxPartialDepth ≤ depth ∧
        (Job.node (.partialRef name context?) scope).move config registry depth =
          .fail (.partialDepth name config.maxPartialDepth)) ∨
      (registry.partial? name = none ∧
        (Job.node (.partialRef name context?) scope).move config registry depth =
          .fail (.missingPartial name)) := by
  simp only [Job.move, Node.move]
  cases hfound : registry.partial? name with
  | none => exact .inr (.inr ⟨rfl, rfl⟩)
  | some body =>
    by_cases hdepth : depth < config.maxPartialDepth
    · exact .inl ⟨body, rfl, hdepth, if_pos hdepth⟩
    · exact .inr (.inl ⟨body, rfl, Nat.le_of_not_lt hdepth, if_neg hdepth⟩)

/-- Where moves of some kinds come from: a write that goes on after a refusal, the end of what is
rendered apart, and a template of its own. -/
def Move.ComesFrom (job : Job) : Move → Prop
  | write _ jobs refused? =>
    (jobs = [] ∧ refused? = none) ∨ ∃ role piece next, job = .script role (.write piece next)
  | collect _ => ∃ role next, job = .collect role next
  | expand _ _ _ => ∃ role s, job = .script role s
  | go _ | register _ _ | apart _ _ | fail _ => True

variable {config registry}

theorem Job.comesFrom_of_move {depth : Nat} {job : Job} {move : Move}
    (h : job.move config registry depth = move) : move.ComesFrom job := by
  subst h
  obtain hplain | hspecial := Job.isPlain_move_or_special config registry depth job
  · cases hmove : job.move config registry depth with
    | write w first refused? =>
      rw [hmove] at hplain
      exact .inl hplain
    | collect | expand =>
      rw [hmove] at hplain
      exact hplain.elim
    | _ => trivial
  cases hspecial with
  | inclusion name context? scope =>
    obtain ⟨_, _, _, hmove⟩ | ⟨_, _, _, hmove⟩ | ⟨_, hmove⟩ :=
      Job.move_inclusion config registry depth name context? scope
    all_goals
      rw [hmove]
      trivial
  | writing role piece next => exact .inr ⟨role, piece, next, rfl⟩
  | expanding role nodes data next => exact ⟨role, _, rfl⟩
  | collecting role next => exact ⟨role, next, rfl⟩
  | _ => trivial

end

/-- After a plain move the jobs that were left stand behind plain ones. -/
theorem Execution.perform_of_isPlain (setting : Setting) (e : Execution) {move : Move}
    (h : move.IsPlain) (jobs : List Job) :
    ∃ first, (∀ job ∈ first, job.IsPlain) ∧ (e.perform setting jobs move).jobs = first ++ jobs := by
  cases move with
  | go first | register change first => exact ⟨first, h, rfl⟩
  | write w first refused? =>
    obtain ⟨rfl, rfl⟩ := h
    refine ⟨[], by simp, ?_⟩
    simp only [perform]
    cases e.outputs.put w <;> rfl
  | fail fault => exact ⟨[], by simp, rfl⟩
  | apart | collect | expand => exact h.elim

end TextTemplate

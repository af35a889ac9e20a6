import TextTemplate.Proofs.Render.Places

/-!
# Replacing inclusions

Including a partial renders its nodes where the inclusion stands: in the same scope, or below it
with the context as the current value, as a `with` block does if the context is true. So inclusions
may be replaced by these nodes, or by such blocks, in a template and in the partials that it
includes. What is rendered stays the same as long as the limit of partials is not exceeded, which
happens later where inclusions are gone.

Whether a context is true depends on the scope, so it matters where an inclusion runs. To tell one
inclusion from another one that looks alike, marks are put in front of those in question: blocks
that render nothing.

## Main definitions

- `Inlines` — nodes, the same nodes with marks, and the nodes with some inclusions replaced
- `Execution.MarksHold` — marked inclusions are come to with true contexts only
- `Alike` — three results that tell the same, unless the limit of partials was exceeded
- `Sides` — the rendering of a template next to the other two
-/

namespace TextTemplate

-- ════════════════════════════════════════════════════════════════════════
-- Marks
-- ════════════════════════════════════════════════════════════════════════

/-- A block that renders nothing. Its label tells it from other blocks, if none of these has it for
a name. -/
def Node.mark (label : String) : Node :=
  .block (.conditional (.literal .null)) label [] none

/-- The block that renders nodes as a partial with a true context does. -/
def Node.within (param : Param) (body : List Node) : Node :=
  .block (.within param) "with" body none

/-- Marked inclusions are come to with true contexts only. -/
def Execution.MarksHold (setting : Setting) (label : String) (start : Execution) : Prop :=
  ∀ reached, Leads setting start reached →
    ∀ name param ns scope jobs, reached.halt? = none →
      reached.jobs = .nodes (.mark label :: .partialRef name (some param) :: ns) scope :: jobs →
      Value.isPresentAndTruthy (param.value? scope) = true

theorem Node.render_mark (env : Env) (label : String) (scope : Scope) :
    (Node.mark label).render env scope = pure () := by
  simp only [mark, render, renderNodes, renderBranch]
  rfl

theorem renderNodes_mark (env : Env) (label : String) (ns : List Node) (scope : Scope) :
    renderNodes env (.mark label :: ns) scope = renderNodes env ns scope := by
  simp [renderNodes, Node.render_mark]

theorem Node.render_within {env : Env} {param : Param} {body : List Node} {scope : Scope}
    (htrue : Value.isPresentAndTruthy (param.value? scope) = true) :
    (Node.within param body).render env scope =
      renderNodes env body (scope.ofPartial (some param)) := by
  cases hvalue : param.value? scope with
  | none =>
    rw [hvalue] at htrue
    cases htrue
  | some v =>
    rw [hvalue] at htrue
    have htrue : v.isTruthy = true := htrue
    simp only [within, render, BlockKind.render, renderWithin, hvalue, if_pos htrue,
      Scope.ofPartial, Param.value, Option.getD_some]

-- ════════════════════════════════════════════════════════════════════════
-- Replacements
-- ════════════════════════════════════════════════════════════════════════

/-- Nodes, the same nodes with marks in front of some inclusions with a context, and the nodes with
some inclusions replaced: those without a context by the nodes of the partial, and marked ones by
a block with the nodes of the partial. -/
inductive Inlines (label : String) (r : Registry) : List Node → List Node → List Node → Prop
  | nil : Inlines label r [] [] []
  | leaf {n : Node} {ns ns' ns'' : List Node} (hleaf : n.IsLeaf) (h : Inlines label r ns ns' ns'') :
      Inlines label r (n :: ns) (n :: ns') (n :: ns'')
  | block (kind : BlockKind) (name : String) {body body' body'' ns ns' ns'' : List Node}
      (hbody : Inlines label r body body' body'') (h : Inlines label r ns ns' ns'') :
      Inlines label r (.block kind name body none :: ns) (.block kind name body' none :: ns')
        (.block kind name body'' none :: ns'')
  | blockElse (kind : BlockKind) (name : String)
      {body body' body'' other other' other'' ns ns' ns'' : List Node}
      (hbody : Inlines label r body body' body'') (hother : Inlines label r other other' other'')
      (h : Inlines label r ns ns' ns'') :
      Inlines label r (.block kind name body (some other) :: ns)
        (.block kind name body' (some other') :: ns')
        (.block kind name body'' (some other'') :: ns'')
  | marked (name : String) (param : Param) {ns ns' ns'' : List Node}
      (h : Inlines label r ns ns' ns'') :
      Inlines label r (.partialRef name (some param) :: ns)
        (.mark label :: .partialRef name (some param) :: ns')
        (.partialRef name (some param) :: ns'')
  | inlined {name : String} {body ns ns' ns'' : List Node} (hfound : r.partial? name = some body)
      (h : Inlines label r ns ns' ns'') :
      Inlines label r (.partialRef name none :: ns) (.partialRef name none :: ns') (body ++ ns'')
  | inlinedWithin {name : String} (param : Param) {body ns ns' ns'' : List Node}
      (hfound : r.partial? name = some body) (h : Inlines label r ns ns' ns'') :
      Inlines label r (.partialRef name (some param) :: ns)
        (.mark label :: .partialRef name (some param) :: ns') (.within param body :: ns'')

/-- Marks alone replace nothing. -/
theorem Inlines.unchanged {label : String} {r : Registry} {ns ns' ns'' : List Node}
    (h : Inlines label r ns ns' ns'') : Inlines label r ns ns' ns := by
  induction h with
  | nil => exact .nil
  | leaf hleaf _ ih => exact .leaf hleaf ih
  | block kind name _ _ ihBody ih => exact .block kind name ihBody ih
  | blockElse kind name _ _ _ ihBody ihOther ih => exact .blockElse kind name ihBody ihOther ih
  | marked name param _ ih => exact .marked name param ih
  | inlined _ _ ih => exact .leaf trivial ih
  | inlinedWithin param _ _ ih => exact .marked _ param ih

/-- The same helpers and block helpers, and partials with marks and with inclusions replaced. -/
structure Registry.Inlines (label : String) (r r' r'' : Registry) : Prop where
  helpers : r'.helpers = r.helpers ∧ r''.helpers = r.helpers
  blockHelpers : r'.blockHelpers = r.blockHelpers ∧ r''.blockHelpers = r.blockHelpers
  missing : ∀ name, r.partial? name = none → r'.partial? name = none ∧ r''.partial? name = none
  found : ∀ name body, r.partial? name = some body → ∃ body' body'',
    r'.partial? name = some body' ∧ r''.partial? name = some body'' ∧
      TextTemplate.Inlines label r body body' body''

namespace Registry.Inlines

variable {label : String} {r r' r'' : Registry}

theorem helper?_eq (h : r.Inlines label r' r'') :
    r'.helper? = r.helper? ∧ r''.helper? = r.helper? :=
  ⟨funext fun name => congrArg (List.lookup name) h.helpers.1,
    funext fun name => congrArg (List.lookup name) h.helpers.2⟩

theorem blockHelper?_eq (h : r.Inlines label r' r'') :
    r'.blockHelper? = r.blockHelper? ∧ r''.blockHelper? = r.blockHelper? :=
  ⟨funext fun name => congrArg (List.lookup name) h.blockHelpers.1,
    funext fun name => congrArg (List.lookup name) h.blockHelpers.2⟩

end Registry.Inlines

-- ════════════════════════════════════════════════════════════════════════
-- Results
-- ════════════════════════════════════════════════════════════════════════

/-- Three results that tell the same, each with a registry of its own; if the first one is that the
limit of partials is exceeded, the others may be any. -/
inductive Alike (r r' r'' : Registry) :
    EStateM.Result Halt Stage Unit → EStateM.Result Halt Stage Unit →
      EStateM.Result Halt Stage Unit → Prop
  | exceeded (name : String) (limit : Nat) (stage : Stage)
      (second third : EStateM.Result Halt Stage Unit) :
      Alike r r' r'' (.error (.fault (.partialDepth name limit)) stage) second third
  | ok (output : Output) :
      Alike r r' r'' (.ok () ⟨output, r⟩) (.ok () ⟨output, r'⟩) (.ok () ⟨output, r''⟩)
  | error (halt : Halt) (output : Output) :
      Alike r r' r'' (.error halt ⟨output, r⟩) (.error halt ⟨output, r'⟩)
        (.error halt ⟨output, r''⟩)

namespace Alike

variable {r r' r'' : Registry} {output : Output} {x x' x'' y y' y'' : Render Unit}

theorem emit (piece : Piece) : Alike r r' r'' (Render.emit piece ⟨output, r⟩)
    (Render.emit piece ⟨output, r'⟩) (Render.emit piece ⟨output, r''⟩) := by
  unfold Render.emit
  cases output.put piece with
  | ok written => exact .ok written
  | error fault => exact .error (.fault fault) output

/-- What comes next need only be alike where the first parts have ended without a fault. -/
theorem bind (h : Alike r r' r'' (x ⟨output, r⟩) (x' ⟨output, r'⟩) (x'' ⟨output, r''⟩))
    (hnext : ∀ written, x ⟨output, r⟩ = .ok () ⟨written, r⟩ →
      x' ⟨output, r'⟩ = .ok () ⟨written, r'⟩ →
        Alike r r' r'' (y ⟨written, r⟩) (y' ⟨written, r'⟩) (y'' ⟨written, r''⟩)) :
    Alike r r' r'' ((do x; y) ⟨output, r⟩) ((do x'; y') ⟨output, r'⟩)
      ((do x''; y'') ⟨output, r''⟩) := by
  simp only [Render.bind_apply]
  generalize x ⟨output, r⟩ = first at h hnext
  generalize x' ⟨output, r'⟩ = second at h hnext
  generalize x'' ⟨output, r''⟩ = third at h
  cases h with
  | exceeded name limit stage => exact .exceeded name limit stage _ _
  | ok written => exact hnext written rfl rfl
  | error halt written => exact .error halt written

end Alike

-- ════════════════════════════════════════════════════════════════════════
-- Renderings side by side
-- ════════════════════════════════════════════════════════════════════════

open Execution

/-- The rendering of a template next to that with marks and that with inclusions replaced: their
registries, and the executions of the first two. -/
structure Sides where
  label : String
  setting : Setting
  r : Registry
  r' : Registry
  r'' : Registry
  start : Execution
  start' : Execution

namespace Sides

/-- The executions come to jobs with the same output. -/
structure Reached (t : Sides) (depth : Nat) (job job' : Job) (output : Output) : Prop where
  plain : ComesTo t.setting t.start depth job ⟨output, t.r⟩
  marked : ComesTo t.setting t.start' depth job' ⟨output, t.r'⟩

/-- No helper runs, and marked inclusions have true contexts. -/
structure Sound (t : Sides) : Prop where
  registry : t.r.Inlines t.label t.r' t.r''
  quiet : ∀ reached, Leads t.setting t.start reached → ∀ role s, Job.script role s ∉ reached.jobs
  marks : MarksHold t.setting t.label t.start'

variable {t : Sides} {depth inner : Nat} {job job' first first' : Job} {output : Output}

namespace Reached

theorem go (h : t.Reached depth job job' output) (hpartial : job.partial? = none)
    (hpartial' : job'.partial? = none) {more more' : List Job}
    (hmove : job.move t.setting.config t.r depth = .go (first :: more))
    (hmove' : job'.move t.setting.config t.r' depth = .go (first' :: more'))
    (hinner : depthOf more + depth = inner) (hinner' : depthOf more' + depth = inner) :
    t.Reached inner first first' output :=
  ⟨h.plain.go hpartial hmove hinner, h.marked.go hpartial' hmove' hinner'⟩

variable {n n' : Node} {ns ns' : List Node} {scope : Scope} {env : Env}

theorem node (h : t.Reached depth (.nodes (n :: ns) scope) (.nodes (n' :: ns') scope) output) :
    t.Reached depth (.node n scope) (.node n' scope) output :=
  ⟨h.plain.node, h.marked.node⟩

theorem tail (h : t.Reached depth (.nodes (n :: ns) scope) (.nodes (n' :: ns') scope) output)
    (henv : env.Agrees t.setting depth) {written : Output}
    (hok : n.render env scope ⟨output, t.r⟩ = .ok () ⟨written, t.r⟩)
    (hok' : n'.render env scope ⟨output, t.r'⟩ = .ok () ⟨written, t.r'⟩) :
    t.Reached depth (.nodes ns scope) (.nodes ns' scope) written :=
  ⟨h.plain.tail henv hok, h.marked.tail henv hok'⟩

/-- A mark is passed over. -/
theorem unmark {label : String}
    (h : t.Reached depth (.nodes ns scope) (.nodes (.mark label :: ns') scope) output)
    (henv : env.Agrees t.setting depth) :
    t.Reached depth (.nodes ns scope) (.nodes ns' scope) output :=
  ⟨h.plain, h.marked.tail henv (by rw [Node.render_mark]; rfl)⟩

end Reached

namespace Sound

variable (h : t.Sound)

include h

/-- No helper runs. -/
theorem not_script (hjob : ComesTo t.setting t.start depth job ⟨output, t.r⟩)
    (hpartial : job.partial? = none) (role : Role) (s : Script) :
    job.move t.setting.config t.r depth ≠ .go [.script role s] := by
  intro hmove
  obtain ⟨outputs, rest, -, -, hleads⟩ := hjob.go hpartial hmove (Nat.zero_add depth)
  exact h.quiet _ hleads role s List.mem_cons_self

theorem true_of_marked {name : String} {param : Param} {ns : List Node} {scope : Scope}
    {stage : Stage} (hjob : ComesTo t.setting t.start' depth
      (.nodes (.mark t.label :: .partialRef name (some param) :: ns) scope) stage) :
    Value.isPresentAndTruthy (param.value? scope) = true := by
  obtain ⟨outputs, rest, -, -, hleads⟩ := hjob
  exact h.marks _ hleads name param ns scope rest rfl rfl

end Sound

-- ════════════════════════════════════════════════════════════════════════
-- Blocks
-- ════════════════════════════════════════════════════════════════════════

/-- Nodes that are rendered alike in every scope in which the executions come to them. -/
structure Branches (t : Sides) (depth : Nat) (body body' : List Node)
    (x x' x'' : Scope → Render Unit) : Prop where
  alike : ∀ scope output, t.Reached depth (.nodes body scope) (.nodes body' scope) output →
    Alike t.r t.r' t.r'' (x scope ⟨output, t.r⟩) (x' scope ⟨output, t.r'⟩)
      (x'' scope ⟨output, t.r''⟩)
  carries : ∀ scope, Carries t.setting depth [.nodes body scope] (x scope)
  carries' : ∀ scope, Carries t.setting depth [.nodes body' scope] (x' scope)

section

variable {body body' other other' : List Node} {x x' x'' y y' y'' : Scope → Render Unit}

/-- A branch is alike where the executions go on with it. -/
theorem Branches.go (hbody : t.Branches depth body body' x x' x'') {scope : Scope}
    (h : t.Reached depth job job' output) (hpartial : job.partial? = none)
    (hpartial' : job'.partial? = none)
    (hmove : job.move t.setting.config t.r depth = .go [.nodes body scope])
    (hmove' : job'.move t.setting.config t.r' depth = .go [.nodes body' scope]) :
    Alike t.r t.r' t.r'' (x scope ⟨output, t.r⟩) (x' scope ⟨output, t.r'⟩)
      (x'' scope ⟨output, t.r''⟩) :=
  hbody.alike scope output
    (h.go hpartial hpartial' hmove hmove' (Nat.zero_add depth) (Nat.zero_add depth))

theorem alike_forM (hbody : t.Branches depth body body' x x' x'') (scopes : List Scope)
    (h : t.Reached depth (.each body scopes) (.each body' scopes) output) :
    Alike t.r t.r' t.r'' (scopes.forM x ⟨output, t.r⟩) (scopes.forM x' ⟨output, t.r'⟩)
      (scopes.forM x'' ⟨output, t.r''⟩) := by
  induction scopes generalizing output with
  | nil => exact .ok output
  | cons scope scopes ih =>
    have hfirst := hbody.alike scope output
      (h.go rfl rfl rfl rfl (Nat.zero_add depth) (Nat.zero_add depth))
    refine hfirst.bind fun written hok hok' => ih ?_
    exact ⟨h.plain.behind rfl rfl (Nat.zero_add depth) (hbody.carries scope) hok,
      h.marked.behind rfl rfl (Nat.zero_add depth) (hbody.carries' scope) hok'⟩

variable (hbody : t.Branches depth body body' x x' x'')
  (hother : t.Branches depth other other' y y' y'') (hpartial : job.partial? = none)
  (hpartial' : job'.partial? = none) (h : t.Reached depth job job' output)

include hbody hother hpartial hpartial' h

theorem alike_each (scope : Scope) (value? : Option Value)
    (hmove : job.move t.setting.config t.r depth = .each body other scope value?)
    (hmove' : job'.move t.setting.config t.r' depth = .each body' other' scope value?) :
    Alike t.r t.r' t.r'' (renderEach x y scope value? ⟨output, t.r⟩)
      (renderEach x' y' scope value? ⟨output, t.r'⟩)
      (renderEach x'' y'' scope value? ⟨output, t.r''⟩) := by
  simp only [renderEach_eq]
  unfold Move.each at hmove hmove'
  cases hvisits : scope.visits value? with
  | nil =>
    simp only [hvisits] at hmove hmove'
    exact hother.go h hpartial hpartial' hmove hmove'
  | cons visited scopes =>
    simp only [hvisits] at hmove hmove'
    exact alike_forM hbody _
      (h.go hpartial hpartial' hmove hmove' (Nat.zero_add depth) (Nat.zero_add depth))

theorem alike_within (scope : Scope) (value? : Option Value)
    (hmove : job.move t.setting.config t.r depth = .within body other scope value?)
    (hmove' : job'.move t.setting.config t.r' depth = .within body' other' scope value?) :
    Alike t.r t.r' t.r'' (renderWithin x y scope value? ⟨output, t.r⟩)
      (renderWithin x' y' scope value? ⟨output, t.r'⟩)
      (renderWithin x'' y'' scope value? ⟨output, t.r''⟩) := by
  unfold renderWithin
  unfold Move.within at hmove hmove'
  cases value? with
  | none => exact hother.go h hpartial hpartial' hmove hmove'
  | some v =>
    by_cases htrue : v.isTruthy = true
    · simp only [if_pos htrue] at hmove hmove' ⊢
      exact hbody.go h hpartial hpartial' hmove hmove'
    · simp only [if_neg htrue] at hmove hmove' ⊢
      exact hother.go h hpartial hpartial' hmove hmove'

end

/-- Blocks are alike if their branches are. -/
theorem Sound.alike_block (hsound : t.Sound) {env env' env'' : Env} (kind : BlockKind)
    (name : String) (scope : Scope) {body body' : List Node}
    {other? other'? other''? : Option (List Node)} {x x' x'' y y' y'' : Scope → Render Unit}
    (hbody : t.Branches depth body body' x x' x'')
    (hother : t.Branches depth (other?.getD []) (other'?.getD []) y y' y'')
    (h : t.Reached depth (.node (.block kind name body other?) scope)
      (.node (.block kind name body' other'?) scope) output) :
    Alike t.r t.r' t.r'' (kind.render env name other?.isSome x y scope ⟨output, t.r⟩)
      (kind.render env' name other'?.isSome x' y' scope ⟨output, t.r'⟩)
      (kind.render env'' name other''?.isSome x'' y'' scope ⟨output, t.r''⟩) := by
  obtain ⟨hlookup, hlookup''⟩ := hsound.registry.blockHelper?_eq
  cases kind with
  | conditional argument =>
    simp only [BlockKind.render]
    split
    · next htrue =>
      exact hbody.go h rfl rfl (by simp only [Job.move, Node.move, BlockKind.move, if_pos htrue])
        (by simp only [Job.move, Node.move, BlockKind.move, if_pos htrue])
    · next hfalse =>
      exact hother.go h rfl rfl (by simp only [Job.move, Node.move, BlockKind.move, if_neg hfalse])
        (by simp only [Job.move, Node.move, BlockKind.move, if_neg hfalse])
  | negated argument =>
    simp only [BlockKind.render]
    split
    · next htrue =>
      exact hother.go h rfl rfl (by simp only [Job.move, Node.move, BlockKind.move, if_pos htrue])
        (by simp only [Job.move, Node.move, BlockKind.move, if_pos htrue])
    · next hfalse =>
      exact hbody.go h rfl rfl (by simp only [Job.move, Node.move, BlockKind.move, if_neg hfalse])
        (by simp only [Job.move, Node.move, BlockKind.move, if_neg hfalse])
  | each argument => exact alike_each hbody hother rfl rfl h scope _ rfl rfl
  | within argument => exact alike_within hbody hother rfl rfl h scope _ rfl rfl
  | implicit path =>
    have hget : ∀ (f : Stage → Render Unit) (stage : Stage),
        ((get : Render Stage) >>= f) stage = f stage stage := fun _ _ => rfl
    simp only [BlockKind.render, hget, hlookup, hlookup'']
    cases hfound : path.name?.bind t.r.blockHelper? with
    | some found =>
      refine absurd ?_ (hsound.not_script h.plain rfl (.block body (other?.getD []))
        (found scope [] other?.isSome))
      simp only [Job.move, Node.move, BlockKind.move, hfound]
    | none =>
      simp only [renderSection]
      cases hvalue : scope.resolve path with
      | none =>
        exact alike_within hbody hother rfl rfl h scope none
          (by simp only [Job.move, Node.move, BlockKind.move, hfound, hvalue])
          (by simp only [Job.move, Node.move, BlockKind.move, hlookup, hfound, hvalue])
      | some v =>
        cases v with
        | sequence items =>
          exact alike_each hbody hother rfl rfl h scope _
            (by simp only [Job.move, Node.move, BlockKind.move, hfound, hvalue])
            (by simp only [Job.move, Node.move, BlockKind.move, hlookup, hfound, hvalue])
        | _ =>
          exact alike_within hbody hother rfl rfl h scope _
            (by simp only [Job.move, Node.move, BlockKind.move, hfound, hvalue])
            (by simp only [Job.move, Node.move, BlockKind.move, hlookup, hfound, hvalue])
  | helper arguments =>
    simp only [BlockKind.render, Render.bind_apply, Render.find_apply, hlookup, hlookup'']
    cases hfound : t.r.blockHelper? name with
    | none => exact .error _ output
    | some found =>
      refine absurd ?_ (hsound.not_script h.plain rfl (.block body (other?.getD []))
        (found scope (arguments.map (Param.value scope)) other?.isSome))
      simp only [Job.move, Node.move, BlockKind.move, hfound]

-- ════════════════════════════════════════════════════════════════════════
-- Nodes
-- ════════════════════════════════════════════════════════════════════════

/-- Inclusions that the executions come to are alike, also to the nodes of the partial in their
place. -/
structure Inclusions (t : Sides) (depth left left' : Nat) : Prop where
  kept : ∀ name context? scope output,
    t.Reached depth (.node (.partialRef name context?) scope)
        (.node (.partialRef name context?) scope) output →
      Alike t.r t.r' t.r'' ((t.setting.env left).renderPartial name context? scope ⟨output, t.r⟩)
        ((t.setting.env left).renderPartial name context? scope ⟨output, t.r'⟩)
        ((t.setting.env left').renderPartial name context? scope ⟨output, t.r''⟩)
  replaced : ∀ name context? scope output body, t.r.partial? name = some body →
    t.Reached depth (.node (.partialRef name context?) scope)
        (.node (.partialRef name context?) scope) output →
      Alike t.r t.r' t.r'' ((t.setting.env left).renderPartial name context? scope ⟨output, t.r⟩)
        ((t.setting.env left).renderPartial name context? scope ⟨output, t.r'⟩)
        (renderNodes (t.setting.env left') body (scope.ofPartial context?) ⟨output, t.r''⟩)

namespace Sound

variable {left left' : Nat} (hsound : t.Sound)

include hsound

theorem alike_leaf (hinclusions : t.Inclusions depth left left') {n : Node} (hleaf : n.IsLeaf)
    {scope : Scope} (h : t.Reached depth (.node n scope) (.node n scope) output) :
    Alike t.r t.r' t.r'' (n.render (t.setting.env left) scope ⟨output, t.r⟩)
      (n.render (t.setting.env left) scope ⟨output, t.r'⟩)
      (n.render (t.setting.env left') scope ⟨output, t.r''⟩) := by
  cases n with
  | block => exact hleaf.elim
  | text s => exact .emit _
  | literal v escaped => exact .emit _
  | path p escaped =>
    simp only [Node.render]
    cases scope.resolve p with
    | none => exact .ok output
    | some v => exact .emit _
  | call name arguments escaped =>
    obtain ⟨hlookup, hlookup''⟩ := hsound.registry.helper?_eq
    simp only [Node.render, Env.renderCall, Render.bind_apply, Render.find_apply, hlookup,
      hlookup'']
    cases hfound : t.r.helper? name with
    | none => exact .error _ output
    | some found =>
      refine absurd ?_ (hsound.not_script h.plain rfl (.call escaped)
        (found scope (arguments.map (Param.value scope))))
      simp only [Job.move, Node.move, hfound]
  | partialRef name context? => exact hinclusions.kept name context? scope output h

/-- Nodes are alike if inclusions are. -/
theorem alike_of_inclusions (hdepth : depth + left = t.setting.config.maxPartialDepth)
    (hinclusions : t.Inclusions depth left left') {ns ns' ns'' : List Node}
    (hnodes : Inlines t.label t.r ns ns' ns'') (scope : Scope)
    (h : t.Reached depth (.nodes ns scope) (.nodes ns' scope) output) :
    Alike t.r t.r' t.r'' (renderNodes (t.setting.env left) ns scope ⟨output, t.r⟩)
      (renderNodes (t.setting.env left) ns' scope ⟨output, t.r'⟩)
      (renderNodes (t.setting.env left') ns'' scope ⟨output, t.r''⟩) := by
  have henv := agrees_envAt t.setting hdepth
  induction hnodes generalizing scope output with
  | nil => exact .ok output
  | leaf hleaf _ ih =>
    simp only [renderNodes]
    refine (hsound.alike_leaf hinclusions hleaf h.node).bind fun written hok hok' => ?_
    exact ih scope (h.tail henv hok hok')
  | block kind name _ _ ihBody ih =>
    simp only [renderNodes]
    refine Alike.bind ?_ fun written hok hok' => ih scope (h.tail henv hok hok')
    refine hsound.alike_block kind name scope ?_ ?_ h.node
    · exact ⟨fun scope _ => ihBody scope, carries_nodes henv _, carries_nodes henv _⟩
    · exact ⟨fun _ output _ => .ok output, carries_branch henv none, carries_branch henv none⟩
  | blockElse kind name _ _ _ ihBody ihOther ih =>
    simp only [renderNodes]
    refine Alike.bind ?_ fun written hok hok' => ih scope (h.tail henv hok hok')
    refine hsound.alike_block kind name scope ?_ ?_ h.node
    · exact ⟨fun scope _ => ihBody scope, carries_nodes henv _, carries_nodes henv _⟩
    · exact ⟨fun scope _ => ihOther scope, carries_nodes henv _, carries_nodes henv _⟩
  | marked name param _ ih =>
    rw [renderNodes_mark]
    have h := h.unmark henv
    simp only [renderNodes]
    refine (hinclusions.kept name _ scope output h.node).bind fun written hok hok' => ?_
    exact ih scope (h.tail henv hok hok')
  | @inlined name body _ _ _ hfound _ ih =>
    rw [renderNodes_append]
    simp only [renderNodes]
    refine (hinclusions.replaced name _ scope output body hfound h.node).bind
      fun written hok hok' => ?_
    exact ih scope (h.tail henv hok hok')
  | @inlinedWithin name param body _ _ _ hfound _ ih =>
    have htrue := hsound.true_of_marked h.marked
    rw [renderNodes_mark]
    have h := h.unmark henv
    simp only [renderNodes, Node.render_within htrue]
    refine (hinclusions.replaced name _ scope output body hfound h.node).bind
      fun written hok hok' => ?_
    exact ih scope (h.tail henv hok hok')

/-- Inclusions of a partial that is missing are alike. -/
theorem alike_missing {name : String} (hmissing : t.r.partial? name = none) (env env' : Env)
    (context? : Option Param) (scope : Scope) :
    Alike t.r t.r' t.r'' (env.renderPartial name context? scope ⟨output, t.r⟩)
      (env.renderPartial name context? scope ⟨output, t.r'⟩)
      (env'.renderPartial name context? scope ⟨output, t.r''⟩) := by
  obtain ⟨hmissing', hmissing''⟩ := hsound.registry.missing name hmissing
  rw [renderPartial_missing env hmissing, renderPartial_missing env hmissing',
    renderPartial_missing env' hmissing'']
  exact .error _ output

/-- No partial may be included any more. -/
theorem inclusions_zero : t.Inclusions depth 0 left' := by
  constructor
  · intro name context? scope output _
    cases hfound : t.r.partial? name with
    | none => exact hsound.alike_missing hfound _ _ context? scope
    | some body =>
      rw [renderPartial_zero t.setting hfound]
      exact .exceeded _ _ _ _ _
  · intro name context? scope output body hfound _
    rw [renderPartial_zero t.setting hfound]
    exact .exceeded _ _ _ _ _

/-- Inclusions are alike if nodes are where one more partial is being rendered. -/
theorem inclusions_succ (hlimit : depth < t.setting.config.maxPartialDepth) (hle : left ≤ left')
    (ih : ∀ more, left ≤ more → ∀ ns ns' ns'', Inlines t.label t.r ns ns' ns'' →
      ∀ scope output, t.Reached (depth + 1) (.nodes ns scope) (.nodes ns' scope) output →
        Alike t.r t.r' t.r'' (renderNodes (t.setting.env left) ns scope ⟨output, t.r⟩)
          (renderNodes (t.setting.env left) ns' scope ⟨output, t.r'⟩)
          (renderNodes (t.setting.env more) ns'' scope ⟨output, t.r''⟩)) :
    t.Inclusions depth (left + 1) (left' + 1) := by
  have henter : ∀ name context? scope output body body',
      t.r.partial? name = some body → t.r'.partial? name = some body' →
      t.Reached depth (.node (.partialRef name context?) scope)
          (.node (.partialRef name context?) scope) output →
        t.Reached (depth + 1) (.nodes body (scope.ofPartial context?))
          (.nodes body' (scope.ofPartial context?)) output := by
    intro name context? scope output body body' hfound hfound' h
    have hmove : (Job.node (.partialRef name context?) scope).move t.setting.config t.r depth =
        .go [.nodes body (scope.ofPartial context?), .leave name] := by
      simp only [Job.move, Node.move, hfound, if_pos hlimit]
    have hmove' : (Job.node (.partialRef name context?) scope).move t.setting.config t.r' depth =
        .go [.nodes body' (scope.ofPartial context?), .leave name] := by
      simp only [Job.move, Node.move, hfound', if_pos hlimit]
    exact h.go rfl rfl hmove hmove' (Nat.add_comm 1 depth) (Nat.add_comm 1 depth)
  constructor
  · intro name context? scope output h
    cases hfound : t.r.partial? name with
    | none => exact hsound.alike_missing hfound _ _ context? scope
    | some body =>
      obtain ⟨body', body'', hfound', hfound'', hbody⟩ := hsound.registry.found name body hfound
      rw [renderPartial_succ t.setting hfound, renderPartial_succ t.setting hfound',
        renderPartial_succ t.setting hfound'']
      exact ih left' hle _ _ _ hbody _ output (henter _ _ _ _ _ _ hfound hfound' h)
  · -- What stands in the place of an inclusion does not count as one: one more may be included.
    intro name context? scope output body hfound h
    obtain ⟨body', _, hfound', _, hbody⟩ := hsound.registry.found name body hfound
    rw [renderPartial_succ t.setting hfound, renderPartial_succ t.setting hfound']
    exact ih (left' + 1) (Nat.le_succ_of_le hle) _ _ _ hbody.unchanged _ output
      (henter _ _ _ _ _ _ hfound hfound' h)

/-- Nodes are alike wherever the executions come to them, with as many partials left, or more where
inclusions are replaced. -/
theorem alike_nodes (hdepth : depth + left = t.setting.config.maxPartialDepth)
    (hle : left ≤ left') {ns ns' ns'' : List Node} (hnodes : Inlines t.label t.r ns ns' ns'')
    (scope : Scope) (output : Output)
    (h : t.Reached depth (.nodes ns scope) (.nodes ns' scope) output) :
    Alike t.r t.r' t.r'' (renderNodes (t.setting.env left) ns scope ⟨output, t.r⟩)
      (renderNodes (t.setting.env left) ns' scope ⟨output, t.r'⟩)
      (renderNodes (t.setting.env left') ns'' scope ⟨output, t.r''⟩) := by
  -- The induction is on the partials that may still be included; the nodes of a partial are not
  -- among those of the template that includes it.
  induction left generalizing depth left' ns ns' ns'' scope output with
  | zero => exact hsound.alike_of_inclusions hdepth hsound.inclusions_zero hnodes scope h
  | succ left ih =>
    obtain ⟨more, rfl⟩ : ∃ more, left' = more + 1 := ⟨left' - 1, by omega⟩
    refine hsound.alike_of_inclusions hdepth (hsound.inclusions_succ ?_ ?_ ?_) hnodes scope h
    · omega
    · omega
    · intro more hmore ns ns' ns'' hnodes scope output h
      exact ih (by omega) hmore hnodes scope output h

end Sound

end Sides

end TextTemplate

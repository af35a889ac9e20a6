import TextTemplate.Proofs.Render.Agreement

/-!
# What an execution comes to

An execution comes to the first of some nodes if it comes to the nodes, and to those behind it if
the first is rendered without a fault; and so for the branches of blocks and the bodies of partials.
What is rendered is known from the nodes, so a proof about the execution can follow the nodes.

## Main definitions

- `Execution.ComesTo` — an execution comes to a job, at a stage of the rendering
- `Node.IsLeaf` — a node without branches
-/

namespace TextTemplate

namespace Execution

/-- An execution comes to a job in front of others, where some partials are being rendered. -/
def ComesTo (setting : Setting) (start : Execution) (depth : Nat) (job : Job) (stage : Stage) :
    Prop :=
  ∃ outputs rest, depthOf rest = depth ∧ outputs.current = stage.output ∧
    Leads setting start ⟨job :: rest, outputs, stage.registry, none⟩

namespace ComesTo

variable {setting : Setting} {start : Execution} {depth inner : Nat} {job first second : Job}
  {stage stage' : Stage}

/-- The first of the jobs that are put in the place of another one comes next. -/
theorem go (h : ComesTo setting start depth job stage) (hpartial : job.partial? = none)
    {more : List Job} (hmove : job.move setting.config stage.registry depth = .go (first :: more))
    (hinner : depthOf more + depth = inner) : ComesTo setting start inner first stage := by
  obtain ⟨outputs, rest, hrest, houtput, hleads⟩ := h
  refine ⟨outputs, more ++ rest, by rw [depthOf_append, hrest, hinner], houtput, hleads.tail ?_⟩
  rw [next_job setting outputs stage.registry hpartial rest hrest, hmove]
  rfl

/-- The second of two jobs comes when the first has done what it carries out, without a fault. -/
theorem behind (h : ComesTo setting start depth job stage) (hpartial : job.partial? = none)
    (hmove : job.move setting.config stage.registry depth = .go [first, second])
    (hinner : depthOf [second] + depth = inner) {x : Render Unit}
    (hx : Carries setting inner [first] x) (hok : x stage = .ok () stage') :
    ComesTo setting start depth second stage' := by
  obtain ⟨outputs, rest, hrest, houtput, hleads⟩ := h
  obtain ⟨written, hdone⟩ := hx outputs stage.registry (second :: rest) (by
    rw [← hinner, ← hrest, ← depthOf_append, List.singleton_append])
  rw [houtput, show (⟨stage.output, stage.registry⟩ : Stage) = stage from rfl, hok] at hdone
  refine ⟨outputs.set stage'.output written, rest, hrest, Outputs.current_set _ _ _, ?_⟩
  refine (hleads.tail ?_).trans hdone
  rw [next_job setting outputs stage.registry hpartial rest hrest, hmove]
  rfl

/-- The first of some nodes comes next. -/
theorem node {n : Node} {ns : List Node} {scope : Scope}
    (h : ComesTo setting start depth (.nodes (n :: ns) scope) stage) :
    ComesTo setting start depth (.node n scope) stage :=
  h.go rfl rfl (Nat.zero_add depth)

/-- The nodes behind one come when it has been rendered without a fault. -/
theorem tail {env : Env} (henv : env.Agrees setting depth) {n : Node} {ns : List Node}
    {scope : Scope} (h : ComesTo setting start depth (.nodes (n :: ns) scope) stage)
    (hok : n.render env scope stage = .ok () stage') :
    ComesTo setting start depth (.nodes ns scope) stage' :=
  h.behind rfl rfl (Nat.zero_add depth) (carries_node henv n scope) hok

end ComesTo

end Execution

/-- A partial that may be included is rendered in front of what was left to do, in the scope that it
has. -/
theorem Execution.next_of_inclusion {setting : Setting} {point : Execution} {name : String}
    {context? : Option Param} {scope : Scope} {jobs : List Job} {body : List Node}
    (hruns : point.halt? = none)
    (hjobs : point.jobs = .node (.partialRef name context?) scope :: jobs)
    (hfound : point.registry.partial? name = some body)
    (hlimit : point.included.length < setting.config.maxPartialDepth) :
    point.next setting = some
      { point with jobs := .nodes body (scope.ofPartial context?) :: .leave name :: jobs } := by
  obtain ⟨_, outputs, registry, _⟩ := point
  simp only at hruns hjobs hfound
  subst hruns hjobs
  simp only [next, Job.move, Node.move, hfound, if_pos hlimit]
  rfl

/-- A node that is not a block. -/
def Node.IsLeaf : Node → Prop
  | .block _ _ _ _ => False
  | .text _ | .path _ _ | .literal _ _ | .call _ _ _ | .partialRef _ _ => True

theorem renderNodes_append (env : Env) (ns more : List Node) (scope : Scope) :
    renderNodes env (ns ++ more) scope =
      (do renderNodes env ns scope; renderNodes env more scope) := by
  induction ns with
  | nil => simp [renderNodes]
  | cons n ns ih => simp [renderNodes, ih]

end TextTemplate

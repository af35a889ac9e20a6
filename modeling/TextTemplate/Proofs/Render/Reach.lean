import TextTemplate.Proofs.Render.Agreement
import TextTemplate.Proofs.Render.Moves

/-!
# What a rendering can come to

From a template a rendering comes to the nodes in it and in the partials that it includes, under any
of the names and nodes that the registry holds or that a registered helper may register; and it
comes to the scripts of registered helpers and of those that they register. Nothing else is ever
rendered, run or found: this is kept by every step. So whatever is known of the nodes and scripts
that can be reached holds of all that is written, and of all faults.

## Main definitions

- `Node.Occurs` — a node of a row of nodes or of a branch inside it
- `Script.Follows` — what a script may go on as, and the scripts of helpers that it registers
- `Registry.MayRun`, `Registry.Offers`, `Registry.Reaches` — the scripts, partials and nodes that
  can be reached
- `Bounds` — scripts, partials and nodes that a rendering does not leave
- `Execution.Within` — an execution inside its bounds
- `Execution.Includes`, `Execution.Exceeds` — an execution that is about to include a partial, with
  the limit reached
-/

namespace TextTemplate

-- ════════════════════════════════════════════════════════════════════════
-- Nodes and scripts
-- ════════════════════════════════════════════════════════════════════════

/-- A node stands in a row of nodes, or in a branch of a block that does. -/
inductive Node.Occurs (n : Node) : List Node → Prop
  | head {nodes : List Node} : Occurs n (n :: nodes)
  | tail {first : Node} {nodes : List Node} : Occurs n nodes → Occurs n (first :: nodes)
  | consequent {kind : BlockKind} {name : String} {consequent nodes : List Node}
      {alternate? : Option (List Node)} :
      Occurs n consequent → Occurs n (.block kind name consequent alternate? :: nodes)
  | alternate {kind : BlockKind} {name : String} {consequent alternate nodes : List Node} :
      Occurs n alternate → Occurs n (.block kind name consequent (some alternate) :: nodes)

/-- A script goes on as another one, whatever it is told, or registers a helper that runs as the
other one. The faults that its branches may end with are given. -/
inductive Script.Follows (faults : RenderError → Prop) : Script → Script → Prop
  | write {piece : Piece} {next : Option RenderError → Script} :
      Follows faults (.write piece next) (next none)
  | refusal {piece : Piece} {next : Option RenderError → Script} :
      Follows faults (.write piece next) (next (some .write))
  | render {branch : Branch} {scope : Scope} {next : Option RenderError → Script} :
      Follows faults (.render branch scope next) (next none)
  | renderFault {branch : Branch} {scope : Scope} {next : Option RenderError → Script}
      {fault : RenderError} (h : faults fault) :
      Follows faults (.render branch scope next) (next (some fault))
  | capture {branch : Branch} {scope : Scope} {escape : Bool} {next : Captured → Script}
      (text : String) : Follows faults (.capture branch scope escape next) (next ⟨text, none⟩)
  | captureFault {branch : Branch} {scope : Scope} {escape : Bool} {next : Captured → Script}
      (text : String) {fault : RenderError} (h : faults fault) :
      Follows faults (.capture branch scope escape next) (next ⟨text, some fault⟩)
  | compile {source : String} {next : Except ParseError (List Node) → Script}
      (result : Except ParseError (List Node)) : Follows faults (.compile source next) (next result)
  | expand {nodes : List Node} {data : Value} {next : Captured → Script} (c : Captured) :
      Follows faults (.expand nodes data next) (next c)
  | helper {name : String} {helper : Helper} {next : Script} (scope : Scope)
      (arguments : List Value) :
      Follows faults (.defineHelper name helper next) (helper scope arguments)
  | defineHelper {name : String} {helper : Helper} {next : Script} :
      Follows faults (.defineHelper name helper next) next
  | blockHelper {name : String} {helper : BlockHelper} {next : Script} (scope : Scope)
      (arguments : List Value) (hasOther : Bool) :
      Follows faults (.defineBlockHelper name helper next) (helper scope arguments hasOther)
  | defineBlockHelper {name : String} {helper : BlockHelper} {next : Script} :
      Follows faults (.defineBlockHelper name helper next) next
  | definePartial {name : String} {nodes : List Node} {next : Script} :
      Follows faults (.definePartial name nodes next) next

namespace Registry

/-- A registered helper answers with a script. -/
inductive Answers (r : Registry) : Script → Prop
  | helper {name : String} {helper : Helper} (h : r.helper? name = some helper) (scope : Scope)
      (arguments : List Value) : Answers r (helper scope arguments)
  | blockHelper {name : String} {helper : BlockHelper} (h : r.blockHelper? name = some helper)
      (scope : Scope) (arguments : List Value) (hasOther : Bool) :
      Answers r (helper scope arguments hasOther)

/-- A script that registered helpers can come to. -/
def MayRun (r : Registry) (s : Script) : Prop :=
  ∃ answer, r.Answers answer ∧ Relation.ReflTransGen (Script.Follows fun _ => True) answer s

/-- A partial that is registered, or that registered helpers can come to register. -/
def Offers (r : Registry) (name : String) (nodes : List Node) : Prop :=
  r.partial? name = some nodes ∨ ∃ next, r.MayRun (.definePartial name nodes next)

/-- A node of a template, or of a partial that a node it reaches includes. -/
inductive Reaches (r : Registry) (nodes : List Node) : Node → Prop
  | here {n : Node} : n.Occurs nodes → Reaches r nodes n
  | included {n : Node} {name : String} {context? : Option Param} {body : List Node} :
      Reaches r nodes (.partialRef name context?) → r.Offers name body → n.Occurs body →
      Reaches r nodes n

end Registry

-- ════════════════════════════════════════════════════════════════════════
-- Bounds
-- ════════════════════════════════════════════════════════════════════════

/-- Scripts, partials, nodes and faults that a rendering does not leave: scripts with all that
follows them, with the partials they register and the faults they fail with, and nodes with those of
the partials they include. -/
structure Bounds where
  scripts : Script → Prop
  partials : String → List Node → Prop
  nodes : Node → Prop
  faults : RenderError → Prop
  follows : ∀ {s s' : Script}, scripts s → s.Follows faults s' → scripts s'
  registers : ∀ {name : String} {body : List Node} {next : Script},
    scripts (.definePartial name body next) → partials name body
  includes : ∀ {n : Node} {name : String} {context? : Option Param} {body : List Node},
    nodes (.partialRef name context?) → partials name body → n.Occurs body → nodes n
  fails : ∀ {fault : RenderError}, scripts (.fail fault) → faults fault
  refuses : faults .write
  misses : ∀ name, faults (.missingHelper name) ∧ faults (.missingPartial name)

namespace Bounds

/-- What can be reached from a template with a registry, and any faults. -/
def reached (r : Registry) (nodes : List Node) : Bounds where
  scripts := r.MayRun
  partials := r.Offers
  nodes := r.Reaches nodes
  faults _ := True
  follows := by
    rintro s s' ⟨answer, hanswer, hcomes⟩ hfollows
    exact ⟨answer, hanswer, hcomes.tail hfollows⟩
  registers := fun h => .inr ⟨_, h⟩
  includes := .included
  fails _ := trivial
  refuses := trivial
  misses _ := ⟨trivial, trivial⟩

/-- The same scripts, partials and faults, with all nodes there are. -/
def anyNodes (b : Bounds) : Bounds where
  scripts := b.scripts
  partials := b.partials
  nodes _ := True
  faults := b.faults
  follows := b.follows
  registers := b.registers
  includes _ _ _ := trivial
  fails := b.fails
  refuses := b.refuses
  misses := b.misses

/-- Scripts that may render templates of their own. -/
def Expands (b : Bounds) : Prop :=
  ∃ nodes data next, b.scripts (.expand nodes data next)

/-- Nodes that stay inside the bounds. -/
def Body (b : Bounds) (nodes : List Node) : Prop :=
  ∀ n : Node, n.Occurs nodes → b.nodes n

variable {b : Bounds}

theorem Body.cons {n : Node} {nodes : List Node} (h : b.Body (n :: nodes)) :
    b.Body [n] ∧ b.Body nodes := by
  refine ⟨?_, fun m hm => h m (.tail hm)⟩
  intro m hm
  cases hm with
  | head => exact h _ .head
  | tail hm => cases hm
  | consequent hm => exact h _ (.consequent hm)
  | alternate hm => exact h _ (.alternate hm)

theorem Body.branches {kind : BlockKind} {name : String} {consequent : List Node}
    {alternate? : Option (List Node)} (h : b.Body [.block kind name consequent alternate?]) :
    b.Body consequent ∧ b.Body (alternate?.getD []) := by
  refine ⟨fun m hm => h m (.consequent hm), ?_⟩
  intro m hm
  cases alternate? with
  | none => cases hm
  | some alternate => exact h m (.alternate hm)

end Bounds

variable (b : Bounds)

/-- What is written comes from a node, or from a helper. -/
def Written.Within : Written → Prop
  | static s => b.nodes (.text s)
  | interpolated v escaped =>
    (∃ p, b.nodes (.path p escaped)) ∨ b.nodes (.literal v escaped) ∨
      ∃ name arguments, b.nodes (.call name arguments escaped)
  | helper piece =>
    (∃ next, b.scripts (.write piece next)) ∨ ∃ s, piece = .safe s ∧ b.scripts (.reply (.safe s))

/-- A registry whose helpers and partials are inside the bounds. -/
structure Registry.Within (r : Registry) : Prop where
  helpers : ∀ {name : String} {helper : Helper}, r.helper? name = some helper →
    ∀ scope arguments, b.scripts (helper scope arguments)
  blockHelpers : ∀ {name : String} {helper : BlockHelper}, r.blockHelper? name = some helper →
    ∀ scope arguments hasOther, b.scripts (helper scope arguments hasOther)
  partials : ∀ {name : String} {body : List Node}, r.partial? name = some body →
    b.partials name body

/-- A call that is inside the bounds, or a block with both branches. -/
def Role.Within : Role → Prop
  | call escaped => ∃ name arguments, b.nodes (.call name arguments escaped)
  | block consequent alternate => b.Body consequent ∧ b.Body alternate

/-- A job whose nodes and scripts are inside the bounds; one that waits has come from a script. -/
def Job.Within : Job → Prop
  | nodes ns _ => b.Body ns
  | node n _ => b.Body [n]
  | each body _ => b.Body body
  | leave _ => True
  | script role s => role.Within b ∧ b.scripts s
  | resume role next => role.Within b ∧ ∃ branch scope, b.scripts (.render branch scope next)
  | collect role next =>
    role.Within b ∧ ∃ branch scope escape, b.scripts (.capture branch scope escape next)

/-- A halt that is inside the bounds: only templates inside one another exhaust a rendering. -/
def Halt.Within : Halt → Prop
  | fault e => b.faults e
  | exhausted => b.Expands

/-- An execution that is inside the bounds, with all that was written. -/
structure Execution.Within (e : Execution) : Prop where
  jobs : ∀ job ∈ e.jobs, job.Within b
  registry : e.registry.Within b
  written : ∀ w ∈ e.outputs.written, w.Within b
  halt : ∀ halt, e.halt? = some halt → halt.Within b

/-- A move that does not leave the bounds. -/
def Move.Within : Move → Prop
  | go jobs => ∀ job ∈ jobs, job.Within b
  | write w jobs refused? =>
    w.Within b ∧ (∀ job ∈ jobs, job.Within b) ∧
      ∀ refused, refused? = some refused → ∀ job ∈ refused .write, job.Within b
  | register change jobs =>
    (∀ r : Registry, r.Within b → (change r).Within b) ∧ ∀ job ∈ jobs, job.Within b
  | apart _ jobs => ∀ job ∈ jobs, job.Within b
  | collect next => ∀ text, ∀ job ∈ next ⟨text, none⟩, job.Within b
  | expand _ _ next => b.Expands ∧ ∀ c, ∀ job ∈ next c, job.Within b
  | fail fault => b.faults fault

variable {b}

-- ════════════════════════════════════════════════════════════════════════
-- Moves
-- ════════════════════════════════════════════════════════════════════════

namespace Registry.Within

variable {r : Registry}

theorem addHelper {name : String} {helper : Helper} {next : Script} (h : r.Within b)
    (hscript : b.scripts (.defineHelper name helper next)) :
    (r.addHelper name helper).Within b := by
  refine ⟨?_, h.blockHelpers, h.partials⟩
  intro name' helper' hlookup scope arguments
  by_cases hname : name' = name
  · subst hname
    rw [helper?_addHelper_self] at hlookup
    cases hlookup
    exact b.follows hscript (.helper scope arguments)
  · rw [helper?_addHelper_of_ne _ _ hname] at hlookup
    exact h.helpers hlookup scope arguments

theorem addBlockHelper {name : String} {helper : BlockHelper} {next : Script} (h : r.Within b)
    (hscript : b.scripts (.defineBlockHelper name helper next)) :
    (r.addBlockHelper name helper).Within b := by
  refine ⟨h.helpers, ?_, h.partials⟩
  intro name' helper' hlookup scope arguments hasOther
  by_cases hname : name' = name
  · subst hname
    rw [blockHelper?_addBlockHelper_self] at hlookup
    cases hlookup
    exact b.follows hscript (.blockHelper scope arguments hasOther)
  · rw [blockHelper?_addBlockHelper_of_ne _ _ hname] at hlookup
    exact h.blockHelpers hlookup scope arguments hasOther

theorem addPartial {name : String} {nodes : List Node} {next : Script} (h : r.Within b)
    (hscript : b.scripts (.definePartial name nodes next)) :
    (r.addPartial name nodes).Within b := by
  refine ⟨h.helpers, h.blockHelpers, ?_⟩
  intro name' body hlookup
  by_cases hname : name' = name
  · subst hname
    rw [partial?_addPartial_self] at hlookup
    cases hlookup
    exact b.registers hscript
  · rw [partial?_addPartial_of_ne _ _ hname] at hlookup
    exact h.partials hlookup

end Registry.Within

namespace Move

theorem within_go_nil : (Move.go []).Within b := by
  intro job hjob
  cases hjob

theorem within_go_singleton {job : Job} (h : job.Within b) : (Move.go [job]).Within b := by
  intro job' hjob
  rwa [List.mem_singleton.1 hjob]

theorem within_go_pair {job job' : Job} (h : job.Within b) (h' : job'.Within b) :
    (Move.go [job, job']).Within b := by
  intro job'' hjob
  simp only [List.mem_cons, List.not_mem_nil, or_false] at hjob
  obtain rfl | rfl := hjob
  · exact h
  · exact h'

theorem within_write {w : Written} (h : w.Within b) : (Move.write w [] none).Within b :=
  ⟨h, by simp, by simp⟩

end Move

section

variable {config : Config} {r : Registry} {depth : Nat} (hr : r.Within b)

include hr

theorem BlockKind.move_within {consequent alternate : List Node} (hmain : b.Body consequent)
    (hother : b.Body alternate) (name : String) (hasOther : Bool) (scope : Scope)
    (kind : BlockKind) :
    (kind.move r name consequent alternate hasOther scope).Within b := by
  have hstep := kind.step_move r name consequent alternate hasOther scope
  generalize kind.move r name consequent alternate hasOther scope = move at hstep ⊢
  cases hstep with
  | enter | visit => exact Move.within_go_singleton hmain
  | other => exact Move.within_go_singleton hother
  | run arguments _ hfound =>
    exact Move.within_go_singleton ⟨⟨hmain, hother⟩, hr.blockHelpers hfound _ _ _⟩
  | missing => exact (b.misses name).1

theorem Node.move_within {n : Node} (h : b.Body [n])
    (hlimit : ∀ name context?, n = .partialRef name context? → (r.partial? name).isSome →
      config.maxPartialDepth ≤ depth → b.faults (.partialDepth name config.maxPartialDepth))
    (scope : Scope) : (n.move config r depth scope).Within b := by
  have hn : b.nodes n := h n .head
  cases n with
  | text s => exact Move.within_write hn
  | path p escaped =>
    simp only [Node.move]
    split
    · exact Move.within_write (.inl ⟨p, hn⟩)
    · exact Move.within_go_nil
  | literal v escaped => exact Move.within_write (.inr (.inl hn))
  | call name arguments escaped =>
    simp only [Node.move]
    split
    · next found hfound =>
      exact Move.within_go_singleton ⟨⟨name, arguments, hn⟩, hr.helpers hfound _ _⟩
    · exact (b.misses name).1
  | block kind name consequent alternate? =>
    exact BlockKind.move_within hr h.branches.1 h.branches.2 name _ scope kind
  | partialRef name context? =>
    simp only [Node.move]
    split
    · next body hbody =>
      split
      · refine Move.within_go_pair ?_ trivial
        exact fun m hm => b.includes hn (hr.partials hbody) hm
      · next hdepth => exact hlimit name context? rfl (by simp [hbody]) (Nat.le_of_not_lt hdepth)
    · exact (b.misses name).2

omit hr in
theorem Role.finish_within {role : Role} {reply : Reply} (hrole : role.Within b)
    (hreply : b.scripts (.reply reply)) : (role.finish reply).Within b := by
  cases role with
  | block consequent alternate => exact Move.within_go_nil
  | call escaped =>
    cases reply with
    | nothing => exact Move.within_go_nil
    | value v => exact Move.within_write (.inr (.inr hrole))
    | safe s => exact Move.within_write (.inr ⟨s, rfl, hreply⟩)

omit hr in
theorem Script.move_within {role : Role} {s : Script} (hrole : role.Within b)
    (hs : b.scripts s) : (s.move config role).Within b := by
  have hbranch : ∀ branch, b.Body (role.branch branch) := by
    intro branch
    cases role with
    | call escaped => exact fun _ hm => by cases hm
    | block consequent alternate =>
      cases branch with
      | main => exact hrole.1
      | other => exact hrole.2
  have hnext : ∀ {s' : Script}, s.Follows b.faults s' →
      ∀ job ∈ [Job.script role s'], job.Within b := by
    intro s' hfollows job hjob
    rw [List.mem_singleton.1 hjob]
    exact ⟨hrole, b.follows hs hfollows⟩
  cases s with
  | reply r => exact Role.finish_within hrole hs
  | fail fault => exact b.fails hs
  | write piece next =>
    refine ⟨.inl ⟨next, hs⟩, hnext .write, ?_⟩
    rintro refused ⟨⟩
    exact hnext .refusal
  | render branch scope next =>
    exact Move.within_go_pair (hbranch branch) ⟨hrole, branch, scope, hs⟩
  | capture branch scope escape next =>
    exact Move.within_go_pair (hbranch branch) ⟨hrole, branch, scope, escape, hs⟩
  | compile source next => exact hnext (.compile _)
  | expand nodes data next => exact ⟨⟨nodes, data, next, hs⟩, fun c => hnext (.expand c)⟩
  | defineHelper name helper next =>
    exact ⟨fun r hr => hr.addHelper hs, hnext .defineHelper⟩
  | defineBlockHelper name helper next =>
    exact ⟨fun r hr => hr.addBlockHelper hs, hnext .defineBlockHelper⟩
  | definePartial name nodes next =>
    exact ⟨fun r hr => hr.addPartial hs, hnext .definePartial⟩

/-- No job leaves the bounds, but for an inclusion where the limit is reached. -/
theorem Job.move_within {job : Job} (h : job.Within b)
    (hlimit : ∀ name context? scope, job = .node (.partialRef name context?) scope →
      (r.partial? name).isSome → config.maxPartialDepth ≤ depth →
        b.faults (.partialDepth name config.maxPartialDepth)) :
    (job.move config r depth).Within b := by
  cases job with
  | nodes ns scope =>
    cases ns with
    | nil => exact Move.within_go_nil
    | cons n ns => exact Move.within_go_pair h.cons.1 h.cons.2
  | node n scope =>
    exact Node.move_within hr h (fun name context? hn => hlimit name context? scope (by rw [hn]))
      scope
  | each body scopes =>
    cases scopes with
    | nil => exact Move.within_go_nil
    | cons scope scopes => exact Move.within_go_pair h h
  | leave name => exact Move.within_go_nil
  | script role s => exact Script.move_within h.1 h.2
  | resume role next =>
    obtain ⟨hrole, branch, scope, hs⟩ := h
    exact Move.within_go_singleton ⟨hrole, b.follows hs .render⟩
  | collect role next =>
    obtain ⟨hrole, branch, scope, escape, hs⟩ := h
    intro text job hjob
    rw [List.mem_singleton.1 hjob]
    exact ⟨hrole, b.follows hs (.capture text)⟩

end

-- ════════════════════════════════════════════════════════════════════════
-- Steps and runs
-- ════════════════════════════════════════════════════════════════════════

/-- A template of its own that is rendered for a helper leaves the registry inside the bounds. -/
def Setting.Keeps (b : Bounds) (setting : Setting) : Prop :=
  ∀ nodes data (stage : Stage), stage.registry.Within b →
    (Render.left (setting.expand nodes data stage)).registry.Within b

namespace Execution

variable {setting : Setting} {e e' : Execution}

theorem within_of_put {o o' : Outputs} {w : Written} (h : o.put w = .ok o') (hw : w.Within b)
    (ho : ∀ w ∈ o.written, w.Within b) : ∀ w ∈ o'.written, w.Within b := by
  obtain ⟨-, rfl⟩ | ⟨inner, apart, -, rfl⟩ := Outputs.ok_of_put h
  · refine List.forall_mem_append.2 ⟨ho, ?_⟩
    intro w' hw'
    rwa [List.mem_singleton.1 hw']
  · exact ho

theorem Within.perform (hkeeps : b.Expands → setting.Keeps b) (h : e.Within b)
    {jobs : List Job} (hjobs : ∀ job ∈ jobs, job.Within b) {move : Move} (hmove : move.Within b) :
    (e.perform setting jobs move).Within b := by
  have happend : ∀ {first : List Job}, (∀ job ∈ first, job.Within b) →
      ∀ job ∈ first ++ jobs, job.Within b :=
    fun hfirst => List.forall_mem_append.2 ⟨hfirst, hjobs⟩
  cases move with
  | go first => exact ⟨happend hmove, h.registry, h.written, h.halt⟩
  | write w first refused? =>
    obtain ⟨hw, hfirst, hrefused⟩ := hmove
    simp only [Execution.perform]
    split
    · next outputs hput =>
      exact ⟨happend hfirst, h.registry, within_of_put hput hw h.written, h.halt⟩
    · next fault refused hput =>
      rw [Outputs.eq_write_of_put hput]
      exact ⟨happend (hrefused _ rfl), h.registry, h.written, h.halt⟩
    · next fault hput =>
      refine ⟨hjobs, h.registry, h.written, ?_⟩
      rintro halt ⟨⟩
      rw [Outputs.eq_write_of_put hput]
      exact b.refuses
  | register change first => exact ⟨happend hmove.2, hmove.1 _ h.registry, h.written, h.halt⟩
  | apart escape first => exact ⟨happend hmove, h.registry, h.written, h.halt⟩
  | collect next => exact ⟨happend (hmove _), h.registry, h.written, h.halt⟩
  | expand nodes data next =>
    obtain ⟨hexpands, hnext⟩ := hmove
    simp only [Execution.perform]
    obtain ⟨c, hc⟩ | hc := Render.captured_cases setting.config.escapeHtml
      (setting.expand nodes data) ⟨e.outputs.current, e.registry⟩
    · rw [hc]
      exact ⟨happend (hnext c), hkeeps hexpands _ _ _ h.registry, h.written, h.halt⟩
    · rw [hc]
      refine ⟨hjobs, hkeeps hexpands _ _ _ h.registry, h.written, ?_⟩
      rintro halt ⟨⟩
      exact hexpands
  | fail fault =>
    refine ⟨hjobs, h.registry, h.written, ?_⟩
    rintro halt ⟨⟩
    exact hmove

theorem Within.unwind (h : e.Within b) {job : Job} {jobs : List Job} (hjob : job.Within b)
    (hjobs : ∀ job ∈ jobs, job.Within b) {halt : Halt} (hhalt : e.halt? = some halt) :
    (e.unwind jobs halt job).Within b := by
  have hin : halt.Within b := h.halt halt hhalt
  have hcons : ∀ {first : Job}, first.Within b → ∀ job ∈ first :: jobs, job.Within b :=
    fun hfirst => List.forall_mem_cons.2 ⟨hfirst, hjobs⟩
  cases job with
  | resume role next =>
    cases halt with
    | fault fault =>
      obtain ⟨hrole, branch, scope, hs⟩ := hjob
      have hscript : b.scripts (next (some fault)) := b.follows hs (.renderFault hin)
      exact ⟨hcons ⟨hrole, hscript⟩, h.registry, h.written, by rintro halt ⟨⟩⟩
    | exhausted => exact ⟨hjobs, h.registry, h.written, h.halt⟩
  | collect role next =>
    cases halt with
    | fault fault =>
      obtain ⟨hrole, branch, scope, escape, hs⟩ := hjob
      have hscript : ∀ text, b.scripts (next ⟨text, some fault⟩) :=
        fun text => b.follows hs (.captureFault text hin)
      exact ⟨hcons ⟨hrole, hscript _⟩, h.registry, h.written, by rintro halt ⟨⟩⟩
    | exhausted => exact ⟨hjobs, h.registry, h.written, h.halt⟩
  | _ => cases halt <;> exact ⟨hjobs, h.registry, h.written, h.halt⟩

/-- An execution that is about to include a partial. -/
structure Includes (e : Execution) (name : String) : Prop where
  runs : e.halt? = none
  head : ∃ context? scope jobs, e.jobs = .node (.partialRef name context?) scope :: jobs

/-- An execution that is about to include a registered partial where the limit is reached. -/
structure Exceeds (limit : Nat) (e : Execution) (name : String) : Prop extends
    e.Includes name where
  registered : (e.registry.partial? name).isSome
  depth : limit ≤ e.included.length

/-- A step does not leave the bounds, but for one that exceeds the limit of partials. -/
theorem Within.next (hkeeps : b.Expands → setting.Keeps b) (h : e.Within b)
    (hlimit : ∀ name, e.Exceeds setting.config.maxPartialDepth name →
      b.faults (.partialDepth name setting.config.maxPartialDepth))
    (hnext : e.next setting = some e') : e'.Within b := by
  obtain ⟨job, jobs, heq, hcases⟩ := next_cases hnext
  have hall := h.jobs
  rw [heq] at hall
  obtain ⟨hjob, hjobs⟩ := List.forall_mem_cons.1 hall
  obtain ⟨hruns, rfl⟩ | ⟨halt, hhalt, rfl⟩ := hcases
  · refine h.perform hkeeps hjobs (Job.move_within h.registry hjob ?_)
    rintro name context? scope rfl hregistered hdepth
    exact hlimit name ⟨⟨hruns, context?, scope, jobs, heq⟩, hregistered, hdepth⟩
  · exact h.unwind hjob hjobs hhalt

/-- No number of steps leaves the bounds if all faults are inside. -/
theorem Within.leads (hkeeps : b.Expands → setting.Keeps b) (hfaults : ∀ fault, b.faults fault)
    (h : e.Within b) (hleads : Leads setting e e') : e'.Within b :=
  hleads.keeps (fun h hnext => h.next hkeeps (fun _ _ => hfaults _) hnext) h

end Execution

theorem Registry.within_of_answers {r : Registry}
    (hscripts : ∀ answer, r.Answers answer → b.scripts answer)
    (hpartials : ∀ name body, r.partial? name = some body → b.partials name body) : r.Within b :=
  ⟨fun hlookup scope arguments => hscripts _ (.helper hlookup scope arguments),
    fun hlookup scope arguments hasOther =>
      hscripts _ (.blockHelper hlookup scope arguments hasOther),
    fun hlookup => hpartials _ _ hlookup⟩

/-- Templates that are rendered for helpers stay inside bounds that have all faults: they run the
same helpers. -/
theorem keeps_renderTemplate {b : Bounds} (hfaults : ∀ fault, b.faults fault) (config : Config)
    (expansions : Nat) : Setting.Keeps b ⟨config, renderTemplate config expansions⟩ := by
  induction expansions with
  | zero => exact fun _ _ _ h => h
  | succ expansions ih =>
    intro nodes data stage hstage
    obtain ⟨written, hleads⟩ := carries_template config expansions nodes data
      { main := stage.output } stage.registry [] rfl
    -- Its nodes are any nodes, but the registry is kept by the same scripts and partials.
    have hstart : Execution.Within b.anyNodes
        ⟨[.nodes nodes (.root data)] ++ [], { main := stage.output }, stage.registry, none⟩ := by
      refine ⟨?_, ⟨hstage.helpers, hstage.blockHelpers, hstage.partials⟩, by simp, by simp⟩
      intro job hjob
      rw [List.append_nil, List.mem_singleton] at hjob
      subst hjob
      exact fun _ _ => trivial
    have hkeeps : Setting.Keeps b.anyNodes ⟨config, renderTemplate config expansions⟩ := by
      intro nodes data stage h
      obtain ⟨hhelpers, hblockHelpers, hpartials⟩ :=
        ih nodes data stage ⟨h.helpers, h.blockHelpers, h.partials⟩
      exact ⟨hhelpers, hblockHelpers, hpartials⟩
    obtain ⟨hhelpers, hblockHelpers, hpartials⟩ :=
      (hstart.leads (fun _ => hkeeps) hfaults hleads).registry
    simp only [Outputs.current] at hhelpers hblockHelpers hpartials ⊢
    cases hresult : renderTemplate config (expansions + 1) nodes data stage with
    | ok _ after | error _ after =>
      rw [hresult] at hhelpers hblockHelpers hpartials
      exact ⟨hhelpers, hblockHelpers, hpartials⟩

namespace Engine

variable {e : Engine} {nodes : List Node} {data : Value} {sink : Sink}

/-- A template is inside all bounds that its nodes and the registry are inside of. -/
theorem within_start (hnodes : b.Body nodes) (hregistry : e.registry.Within b) (data : Value)
    (sink : Sink) : (e.start nodes data sink).Within b := by
  refine ⟨?_, hregistry, by simp [start], by simp [start]⟩
  intro job hjob
  rw [List.mem_singleton.1 hjob]
  exact hnodes

/-- Whatever a rendering comes to is among what can be reached from its template. -/
theorem within_reached {reached : Execution}
    (h : Execution.Leads e.setting (e.start nodes data sink) reached) :
    reached.Within (Bounds.reached e.registry nodes) := by
  have hregistry : e.registry.Within (Bounds.reached e.registry nodes) :=
    Registry.within_of_answers (fun answer h => ⟨answer, h, .refl⟩) fun _ _ h => .inl h
  have hnodes : (Bounds.reached e.registry nodes).Body nodes := fun _ hn => .here hn
  have hstart := within_start hnodes hregistry data sink
  exact hstart.leads (fun _ => keeps_renderTemplate (fun _ => trivial) e.config _)
    (fun _ => trivial) h

end Engine

end TextTemplate

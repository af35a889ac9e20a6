import Mathlib.Logic.Relation
import TextTemplate.Proofs.Render.Invariant
import TextTemplate.Proofs.Render.Moves
import TextTemplate.Proofs.Render.Reach
import TextTemplate.Proofs.Scope
import TextTemplate.Stock

/-!
# Scopes of a rendering

The scope in which a node is rendered is what its nesting says: the template is rendered against its
data, the branch of a block in the scope of the block or below it, a partial in the scope of its
inclusion or below it. So every scope is a chain of links from the data, if block helpers render
their branches only below the scope they are given.

## Main definitions

- `Nests` — a node is nested in a scope
- `Execution.RendersBelow` — block helpers render their branches below the scopes of their blocks
- `Script.RendersFrom`, `Registry.KeepsScopes` — helpers that do so whatever they are told
- `Invariant.nested` — executions all of whose nodes are nested in their scopes
-/

namespace TextTemplate

-- ════════════════════════════════════════════════════════════════════════
-- Nesting
-- ════════════════════════════════════════════════════════════════════════

/-- The scopes in which nodes are rendered: those of a template in the scope of the data, those of a
main branch wherever the block enters it, those of an other branch in the scope of the block, those
of a branch that a block helper renders below the scope of the block, and those of a partial that is
offered in the scope that its inclusion makes. -/
inductive Nests (offers : String → List Node → Prop) (nodes : List Node) (data : Value) :
    Node → Scope → Prop
  | template {n : Node} (h : n ∈ nodes) : Nests offers nodes data n (.root data)
  | main {n : Node} {kind : BlockKind} {name : String} {consequent : List Node}
      {alternate? : Option (List Node)} {scope inner : Scope}
      (hblock : Nests offers nodes data (.block kind name consequent alternate?) scope)
      (henters : kind.Enters scope inner) (h : n ∈ consequent) : Nests offers nodes data n inner
  | other {n : Node} {kind : BlockKind} {name : String} {consequent : List Node}
      {alternate? : Option (List Node)} {scope : Scope}
      (hblock : Nests offers nodes data (.block kind name consequent alternate?) scope)
      (h : n ∈ alternate?.getD []) : Nests offers nodes data n scope
  | helper {n : Node} {kind : BlockKind} {name : String} {consequent : List Node}
      {alternate? : Option (List Node)} {scope : Scope}
      (hblock : Nests offers nodes data (.block kind name consequent alternate?) scope)
      (hkind : kind.RunsHelper) (branch : Branch) (links : List Scope.Link)
      (h : n ∈ (Role.block consequent (alternate?.getD [])).branch branch) :
      Nests offers nodes data n (scope.extend links)
  | included {n : Node} {name : String} {context? : Option Param} {scope : Scope}
      {body : List Node}
      (hinclusion : Nests offers nodes data (.partialRef name context?) scope)
      (hoffers : offers name body) (h : n ∈ body) :
      Nests offers nodes data n (scope.ofPartial context?)

/-- A scope for a member of a value has one more link. -/
theorem Scope.exists_link_of_mem_visits {scope visited : Scope} {value? : Option Value}
    (h : visited ∈ scope.visits value?) : ∃ l, visited = scope.link l := by
  unfold visits at h
  split at h
  · obtain ⟨⟨member, index⟩, -, rfl⟩ := List.mem_map.1 h
    exact ⟨.item member index _, rfl⟩
  · obtain ⟨⟨⟨key, value⟩, position⟩, -, rfl⟩ := List.mem_map.1 h
    exact ⟨.entry value key position _, rfl⟩
  · cases h

/-- A block enters its main branch in its own scope, or with one more link. -/
theorem BlockKind.Enters.exists_extend {kind : BlockKind} {scope inner : Scope}
    (h : kind.Enters scope inner) : ∃ links, inner = scope.extend links := by
  have hvisits : ∀ {value? : Option Value}, inner ∈ scope.visits value? →
      ∃ links, inner = scope.extend links := by
    intro value? hvisited
    obtain ⟨l, rfl⟩ := Scope.exists_link_of_mem_visits hvisited
    exact ⟨[l], rfl⟩
  cases h with
  | conditional | negated => exact ⟨[], rfl⟩
  | each hvisited => exact hvisits hvisited
  | within | implicitWithin => exact ⟨[.child _], rfl⟩
  | implicitEach _ hvisited => exact hvisits hvisited

theorem Scope.exists_ofPartial_eq_extend (scope : Scope) (context? : Option Param) :
    ∃ links, scope.ofPartial context? = scope.extend links := by
  cases context? with
  | none => exact ⟨[], rfl⟩
  | some param => exact ⟨[.child (param.value scope)], rfl⟩

/-- A node is nested in nothing but chains of links from the data. -/
theorem Nests.exists_chain {offers : String → List Node → Prop} {nodes : List Node} {data : Value}
    {n : Node} {scope : Scope} (h : Nests offers nodes data n scope) :
    ∃ links, scope = .chain data links := by
  have hextend : ∀ {scope : Scope} (more : List Scope.Link), (∃ links, scope = .chain data links) →
      ∃ links, scope.extend more = .chain data links := by
    rintro _ more ⟨links, rfl⟩
    exact ⟨links ++ more, (Scope.extend_append _ _ _).symm⟩
  induction h with
  | template => exact ⟨[], rfl⟩
  | main _ henters _ ih =>
    obtain ⟨more, rfl⟩ := henters.exists_extend
    exact hextend more ih
  | other _ _ ih => exact ih
  | helper _ _ _ more _ ih => exact hextend more ih
  | @included _ _ context? scope _ _ _ _ ih =>
    obtain ⟨more, hmore⟩ := scope.exists_ofPartial_eq_extend context?
    rw [hmore]
    exact hextend more ih

-- ════════════════════════════════════════════════════════════════════════
-- Executions
-- ════════════════════════════════════════════════════════════════════════

/-- A script that begins with having a branch rendered in a scope, to the output or apart. -/
inductive Script.Asks (branch : Branch) (inner : Scope) : Script → Prop
  | render (next : Option RenderError → Script) : Asks branch inner (.render branch inner next)
  | capture (escape : Bool) (next : Captured → Script) :
      Asks branch inner (.capture branch inner escape next)

namespace Execution

/-- The node that an execution is about to render, with its scope. -/
def rendered? (e : Execution) : Option (Node × Scope) :=
  match e.jobs, e.halt? with
  | .node n scope :: _, none => some (n, scope)
  | _, _ => none

/-- The nodes that have been rendered on the way from one execution to another, last one first, with
their scopes. -/
inductive Trail (setting : Setting) (start : Execution) : List (Node × Scope) → Execution → Prop
  | nil : Trail setting start [] start
  | next {trail : List (Node × Scope)} {e e' : Execution} (h : Trail setting start trail e)
      (hnext : e.next setting = some e') : Trail setting start (e.rendered?.toList ++ trail) e'

/-- A block has been rendered in a scope, of a kind that a block helper may run for. -/
def Stood (trail : List (Node × Scope)) (consequent alternate : List Node) (scope : Scope) : Prop :=
  ∃ kind name alternate?, (.block kind name consequent alternate?, scope) ∈ trail ∧
    BlockKind.RunsHelper kind ∧ alternate?.getD [] = alternate

/-- Block helpers have their branches rendered only in scopes that their blocks have stood in, or in
scopes linked to these. -/
def RendersBelow (setting : Setting) (start : Execution) : Prop :=
  ∀ trail e consequent alternate s jobs branch inner, Trail setting start trail e →
    e.jobs = .script (.block consequent alternate) s :: jobs → e.halt? = none →
    s.Asks branch inner →
      ∃ scope links, Stood trail consequent alternate scope ∧ inner = scope.extend links

theorem Trail.exists_of_leads {setting : Setting} {start e : Execution}
    (h : Leads setting start e) : ∃ trail, Trail setting start trail e := by
  induction h with
  | refl => exact ⟨[], .nil⟩
  | tail _ hnext ih =>
    obtain ⟨trail, htrail⟩ := ih
    exact ⟨_, htrail.next hnext⟩

theorem Trail.leads {setting : Setting} {start e : Execution} {trail : List (Node × Scope)}
    (h : Trail setting start trail e) : Leads setting start e := by
  induction h with
  | nil => exact .refl
  | next _ hnext ih => exact ih.tail hnext

end Execution

/-- Nodes are rendered only in scopes that they are nested in. -/
def Invariant.nested (P : Node → Scope → Prop) : Invariant where
  job
    | .nodes ns scope => ∀ n ∈ ns, P n scope
    | .node n scope => P n scope
    | .each body scopes => ∀ scope ∈ scopes, ∀ n ∈ body, P n scope
    | _ => True
  registry _ := True
  halt _ := True
  refuses := True

section

variable {offers : String → List Node → Prop} {template : List Node} {data : Value}
  {config : Config} {registry : Registry} {depth : Nat}

theorem BlockKind.nested_move {kind : BlockKind} {name : String} {consequent : List Node}
    {alternate? : Option (List Node)} {scope : Scope}
    (h : Nests offers template data (.block kind name consequent alternate?) scope) :
    (kind.move registry name consequent (alternate?.getD []) alternate?.isSome scope).Keeps
      (.nested (Nests offers template data)) := by
  have hstep := kind.step_move registry name consequent (alternate?.getD []) alternate?.isSome scope
  generalize kind.move registry name consequent (alternate?.getD []) alternate?.isSome scope = move
    at hstep ⊢
  cases hstep with
  | enter henters => exact Move.keeps_go_singleton fun n hn => .main h henters hn
  | visit hvisits =>
    exact Move.keeps_go_singleton fun inner hinner n hn => .main h (hvisits inner hinner) hn
  | other => exact Move.keeps_go_singleton fun n hn => .other h hn
  | run => exact Move.keeps_go_singleton trivial
  | missing => trivial

theorem Node.nested_move {n : Node} {scope : Scope} (h : Nests offers template data n scope)
    (hpartials : ∀ name body, registry.partial? name = some body → offers name body) :
    (n.move config registry depth scope).Keeps (.nested (Nests offers template data)) := by
  cases n with
  | text | literal => exact Move.keeps_write _ fun _ => trivial
  | path p escaped =>
    simp only [Node.move]
    split
    · exact Move.keeps_write _ fun _ => trivial
    · exact Move.keeps_go_nil
  | call name arguments escaped =>
    simp only [Node.move]
    split
    · exact Move.keeps_go_singleton trivial
    · trivial
  | block kind name consequent alternate? => exact BlockKind.nested_move h
  | partialRef name context? =>
    obtain ⟨body, hfound, -, hmove⟩ | ⟨_, _, _, hmove⟩ | ⟨_, hmove⟩ :=
      Job.move_inclusion config registry depth name context? scope
    all_goals
      simp only [Job.move] at hmove
      rw [hmove]
    · exact Move.keeps_go_pair (fun n hn => .included h (hpartials name body hfound) hn) trivial
    · trivial
    · trivial

theorem Script.nested_move {P : Node → Scope → Prop} {role : Role} {s : Script}
    (hbranch : ∀ branch inner, s.Asks branch inner → ∀ n ∈ role.branch branch, P n inner) :
    (s.move config role).Keeps (.nested P) := by
  have hone : ∀ s', ∀ job ∈ [Job.script role s'], (Invariant.nested P).job job := by
    intro s' job hjob
    rw [List.mem_singleton.1 hjob]
    trivial
  cases s with
  | reply r =>
    cases role with
    | block => exact Move.keeps_go_nil
    | call escaped =>
      cases r with
      | nothing => exact Move.keeps_go_nil
      | value | safe => exact Move.keeps_write _ fun _ => trivial
  | fail fault => trivial
  | write piece next => exact ⟨hone _, fun _ => hone _⟩
  | render branch inner next =>
    exact Move.keeps_go_pair (hbranch branch inner (.render next)) trivial
  | capture branch inner escape next =>
    exact Move.keeps_go_pair (hbranch branch inner (.capture escape next)) trivial
  | compile source next => exact hone _
  | expand nodes data next => exact ⟨trivial, fun c => hone _⟩
  | defineHelper | defineBlockHelper | definePartial => exact ⟨fun _ _ => trivial, hone _⟩

theorem Job.resumes_nested {P : Node → Scope → Prop} (job : Job) : job.Resumes (.nested P) := by
  cases job with
  | resume role next => exact fun _ _ => trivial
  | collect role next => exact fun _ _ _ => trivial
  | _ => trivial

/-- A job whose nodes are nested in their scopes makes a move that keeps them so, if the branches
that it asks for are. -/
theorem Job.nested_move {job : Job}
    (h : (Invariant.nested (Nests offers template data)).job job)
    (hpartials : ∀ name body, registry.partial? name = some body → offers name body)
    (hbranch : ∀ role s branch inner, job = .script role s → s.Asks branch inner →
      ∀ n ∈ role.branch branch, Nests offers template data n inner) :
    (job.move config registry depth).Keeps (.nested (Nests offers template data)) := by
  cases job with
  | nodes ns scope =>
    cases ns with
    | nil => exact Move.keeps_go_nil
    | cons n ns =>
      obtain ⟨hn, hns⟩ := List.forall_mem_cons.1 h
      exact Move.keeps_go_pair hn hns
  | node n scope => exact Node.nested_move h hpartials
  | each body scopes =>
    cases scopes with
    | nil => exact Move.keeps_go_nil
    | cons scope scopes =>
      obtain ⟨hscope, hscopes⟩ := List.forall_mem_cons.1 h
      exact Move.keeps_go_pair hscope hscopes
  | leave name => exact Move.keeps_go_nil
  | script role s => exact Script.nested_move fun branch inner => hbranch role s branch inner rfl
  | resume role next => exact Move.keeps_go_singleton trivial
  | collect role next =>
    intro text job hjob
    rw [List.mem_singleton.1 hjob]
    trivial

end

namespace Execution

variable {setting : Setting} {start e : Execution} {offers : String → List Node → Prop}
  {template : List Node} {data : Value}

theorem Obeys.nests (h : e.Obeys (.nested (Nests offers template data))) {n : Node} {scope : Scope}
    (hrendered : e.rendered? = some (n, scope)) : Nests offers template data n scope := by
  unfold rendered? at hrendered
  split at hrendered
  · next n' scope' jobs heq _ =>
    cases hrendered
    exact h.jobs (.node n scope) (by simp [heq])
  · cases hrendered

/-- Along an execution nodes are rendered only in scopes that they are nested in, if block helpers
render their branches below the scopes of their blocks. -/
theorem obeys_nested (hbelow : start.RendersBelow setting)
    (hpartials : ∀ e, Leads setting start e → ∀ name body,
      e.registry.partial? name = some body → offers name body)
    (hstart : start.Obeys (.nested (Nests offers template data))) {trail : List (Node × Scope)}
    (htrail : Trail setting start trail e) :
    e.Obeys (.nested (Nests offers template data)) ∧
      ∀ n scope, (n, scope) ∈ trail → Nests offers template data n scope := by
  induction htrail with
  | nil => exact ⟨hstart, by simp⟩
  | @next trail mid last hmid hnext ih =>
    obtain ⟨hobeys, hall⟩ := ih
    refine ⟨?_, ?_⟩
    · refine hobeys.next (fun _ _ _ _ _ => trivial) (fun job _ => job.resumes_nested) ?_ hnext
      intro job jobs heq hruns hjob
      refine Job.nested_move hjob (hpartials mid hmid.leads) ?_
      rintro role s branch inner rfl hasks n hn
      cases role with
      | call escaped => cases hn
      | block consequent alternate =>
        -- The block was rendered on the way, and nodes rendered on the way are nested.
        obtain ⟨scope, links, ⟨kind, name, alternate?, hmem, hkind, rfl⟩, rfl⟩ :=
          hbelow trail mid consequent alternate s jobs branch inner hmid heq hruns hasks
        exact .helper (hall _ _ hmem) hkind branch links hn
    · intro n scope hn
      obtain hlast | hn := List.mem_append.1 hn
      · exact hobeys.nests (Option.mem_toList.1 hlast)
      · exact hall n scope hn

end Execution

-- ════════════════════════════════════════════════════════════════════════
-- Helpers that render below their scope
-- ════════════════════════════════════════════════════════════════════════

/-- A script that has branches rendered only in a scope or in scopes linked to it, whatever it is
told. The helpers that it registers do so with the scopes that they are given. -/
def Script.RendersFrom (scope : Scope) : Script → Prop
  | reply _ | fail _ => True
  | write _ next => ∀ fault?, (next fault?).RendersFrom scope
  | render _ inner next =>
    (∃ links, inner = scope.extend links) ∧ ∀ fault?, (next fault?).RendersFrom scope
  | capture _ inner _ next =>
    (∃ links, inner = scope.extend links) ∧ ∀ c, (next c).RendersFrom scope
  | compile _ next => ∀ result, (next result).RendersFrom scope
  | expand _ _ next => ∀ c, (next c).RendersFrom scope
  | defineHelper _ helper next =>
    (∀ inner arguments, (helper inner arguments).RendersFrom inner) ∧ next.RendersFrom scope
  | defineBlockHelper _ helper next =>
    (∀ inner arguments hasOther, (helper inner arguments hasOther).RendersFrom inner) ∧
      next.RendersFrom scope
  | definePartial _ _ next => next.RendersFrom scope

theorem Script.RendersFrom.exists_extend {s : Script} {scope inner : Scope} {branch : Branch}
    (h : s.RendersFrom scope) (hasks : s.Asks branch inner) : ∃ links, inner = scope.extend links := by
  cases hasks with
  | render | capture => exact h.1

/-- A registry whose helpers have branches rendered only below the scope that they are given. -/
abbrev Registry.KeepsScopes : Registry → Prop :=
  Registry.All (fun helper => ∀ scope arguments, (helper scope arguments).RendersFrom scope)
    (fun helper => ∀ scope arguments hasOther, (helper scope arguments hasOther).RendersFrom scope)

/-- A call has no branches to render, and a block's are rendered below a scope that it has stood
in. -/
def Role.RendersFrom (stood : List Node → List Node → Scope → Prop) (role : Role) (s : Script) :
    Prop :=
  match role with
  | call _ => ∃ scope, s.RendersFrom scope
  | block consequent alternate => ∃ scope, stood consequent alternate scope ∧ s.RendersFrom scope

/-- Helpers have branches rendered only below scopes that their blocks have stood in. -/
def Invariant.below (stood : List Node → List Node → Scope → Prop) : Invariant where
  job
    | .script role s => role.RendersFrom stood s
    | .resume role next => ∀ fault?, role.RendersFrom stood (next fault?)
    | .collect role next => ∀ c, role.RendersFrom stood (next c)
    | _ => True
  registry := Registry.KeepsScopes
  halt _ := True
  refuses := True

section

variable {stood : List Node → List Node → Scope → Prop} {config : Config} {registry : Registry}
  {depth : Nat}

theorem Role.RendersFrom.exists_scope {role : Role} {s : Script} (h : role.RendersFrom stood s) :
    ∃ scope, s.RendersFrom scope := by
  cases role with
  | call => exact h
  | block =>
    obtain ⟨scope, -, hs⟩ := h
    exact ⟨scope, hs⟩

/-- What a script goes on as renders below the same scope. -/
theorem Role.RendersFrom.imp {role : Role} {s s' : Script} (h : role.RendersFrom stood s)
    (hnext : ∀ scope, s.RendersFrom scope → s'.RendersFrom scope) : role.RendersFrom stood s' := by
  cases role with
  | call =>
    obtain ⟨scope, hs⟩ := h
    exact ⟨scope, hnext scope hs⟩
  | block =>
    obtain ⟨scope, hstood, hs⟩ := h
    exact ⟨scope, hstood, hnext scope hs⟩

theorem Job.resumes_below {job : Job} (h : (Invariant.below stood).job job) :
    job.Resumes (.below stood) := by
  cases job with
  | resume role next => exact fun fault _ => h (some fault)
  | collect role next => exact fun text fault _ => h ⟨text, some fault⟩
  | _ => trivial

theorem BlockKind.below_move {kind : BlockKind} {name : String} {consequent alternate : List Node}
    {hasOther : Bool} {scope : Scope} (hregistry : registry.KeepsScopes)
    (hstood : kind.RunsHelper → stood consequent alternate scope) :
    (kind.move registry name consequent alternate hasOther scope).Keeps (.below stood) := by
  have hstep := kind.step_move registry name consequent alternate hasOther scope
  generalize kind.move registry name consequent alternate hasOther scope = move at hstep ⊢
  cases hstep with
  | enter | visit | other => exact Move.keeps_go_singleton trivial
  | run arguments hkind hfound =>
    have hhelper := hregistry.blockHelpers hfound scope arguments hasOther
    exact Move.keeps_go_singleton ⟨scope, hstood hkind, hhelper⟩
  | missing => trivial

theorem Node.below_move {n : Node} {scope : Scope} (hregistry : registry.KeepsScopes)
    (hstood : ∀ kind name consequent alternate?, n = .block kind name consequent alternate? →
      kind.RunsHelper → stood consequent (alternate?.getD []) scope) :
    (n.move config registry depth scope).Keeps (.below stood) := by
  cases n with
  | text | literal => exact Move.keeps_write _ fun _ => trivial
  | path p escaped =>
    simp only [Node.move]
    split
    · exact Move.keeps_write _ fun _ => trivial
    · exact Move.keeps_go_nil
  | call name arguments escaped =>
    simp only [Node.move]
    split
    · next helper hfound =>
      exact Move.keeps_go_singleton ⟨scope, hregistry.helpers hfound scope _⟩
    · trivial
  | block kind name consequent alternate? =>
    exact BlockKind.below_move hregistry (hstood kind name consequent alternate? rfl)
  | partialRef name context? =>
    obtain ⟨body, -, -, hmove⟩ | ⟨_, _, _, hmove⟩ | ⟨_, hmove⟩ :=
      Job.move_inclusion config registry depth name context? scope
    all_goals
      simp only [Job.move] at hmove
      rw [hmove]
    · exact Move.keeps_go_pair trivial trivial
    · trivial
    · trivial

theorem Script.below_move {role : Role} {s : Script} (h : role.RendersFrom stood s) :
    (s.move config role).Keeps (.below stood) := by
  have hone : ∀ s', (∀ scope, s.RendersFrom scope → s'.RendersFrom scope) →
      ∀ job ∈ [Job.script role s'], (Invariant.below stood).job job := by
    intro s' hnext job hjob
    rw [List.mem_singleton.1 hjob]
    exact h.imp hnext
  obtain ⟨scope, hs⟩ := h.exists_scope
  cases s with
  | reply r =>
    cases role with
    | block => exact Move.keeps_go_nil
    | call escaped =>
      cases r with
      | nothing => exact Move.keeps_go_nil
      | value | safe => exact Move.keeps_write _ fun _ => trivial
  | fail fault => trivial
  | write piece next => exact ⟨hone _ fun _ h => h none, fun _ => hone _ fun _ h => h _⟩
  | render branch inner next =>
    exact Move.keeps_go_pair trivial fun fault? => h.imp fun _ h => h.2 fault?
  | capture branch inner escape next =>
    exact Move.keeps_go_pair trivial fun c => h.imp fun _ h => h.2 c
  | compile source next => exact hone _ fun _ h => h _
  | expand nodes data next => exact ⟨trivial, fun c => hone _ fun _ h => h c⟩
  | defineHelper name helper next =>
    exact ⟨fun _ hr => hr.addHelper name hs.1, hone _ fun _ h => h.2⟩
  | defineBlockHelper name helper next =>
    exact ⟨fun _ hr => hr.addBlockHelper name hs.1, hone _ fun _ h => h.2⟩
  | definePartial name nodes next =>
    exact ⟨fun _ hr => hr.addPartial name nodes, hone _ fun _ h => h⟩

/-- The branches that a job asks for are rendered below a scope that their block has stood in, if
the block that it renders counts among those that have. -/
theorem Job.below_move {job : Job} (hregistry : registry.KeepsScopes)
    (h : (Invariant.below stood).job job)
    (hstood : ∀ kind name consequent alternate? scope,
      job = .node (.block kind name consequent alternate?) scope → kind.RunsHelper →
        stood consequent (alternate?.getD []) scope) :
    (job.move config registry depth).Keeps (.below stood) := by
  cases job with
  | nodes ns scope =>
    cases ns with
    | nil => exact Move.keeps_go_nil
    | cons n ns => exact Move.keeps_go_pair trivial trivial
  | node n scope =>
    refine Node.below_move hregistry ?_
    rintro kind name consequent alternate? rfl hkind
    exact hstood kind name consequent alternate? scope rfl hkind
  | each body scopes =>
    cases scopes with
    | nil => exact Move.keeps_go_nil
    | cons scope scopes => exact Move.keeps_go_pair trivial trivial
  | leave name => exact Move.keeps_go_nil
  | script role s => exact Script.below_move h
  | resume role next => exact Move.keeps_go_singleton (h none)
  | collect role next =>
    intro text job hjob
    rw [List.mem_singleton.1 hjob]
    exact h ⟨text, none⟩

end

namespace Execution

variable {setting : Setting} {start e : Execution}

/-- What blocks have stood in counts also later on. -/
theorem Obeys.below_mono {stood stood' : List Node → List Node → Scope → Prop}
    (h : e.Obeys (.below stood))
    (hstood : ∀ consequent alternate scope, stood consequent alternate scope →
      stood' consequent alternate scope) : e.Obeys (.below stood') := by
  have hrole : ∀ {role : Role} {s : Script}, role.RendersFrom stood s →
      role.RendersFrom stood' s := by
    intro role s hs
    cases role with
    | call => exact hs
    | block =>
      obtain ⟨scope, hscope, hs⟩ := hs
      exact ⟨scope, hstood _ _ scope hscope, hs⟩
  refine ⟨?_, h.registry, h.halt, h.sinks⟩
  intro job hjob
  have hbefore := h.jobs job hjob
  cases job with
  | script => exact hrole hbefore
  | resume => exact fun fault? => hrole (hbefore fault?)
  | collect => exact fun c => hrole (hbefore c)
  | _ => trivial

/-- Along an execution, helpers that render below their scopes have branches rendered below scopes
that their blocks have stood in. -/
theorem obeys_below (hexpand : setting.KeepsRegistry Registry.KeepsScopes)
    (hstart : ∀ stood, start.Obeys (.below stood)) {trail : List (Node × Scope)}
    (htrail : Trail setting start trail e) : e.Obeys (.below (Stood trail)) := by
  induction htrail with
  | nil => exact hstart _
  | @next trail mid last hmid hnext ih =>
    have hmore : mid.Obeys (.below (Stood (mid.rendered?.toList ++ trail))) := by
      refine ih.below_mono ?_
      rintro consequent alternate scope ⟨kind, name, alternate?, hmem, hkind, halternate⟩
      exact ⟨kind, name, alternate?, List.mem_append_right _ hmem, hkind, halternate⟩
    refine hmore.next hexpand (fun _ hjob => Job.resumes_below hjob) ?_ hnext
    intro job jobs heq hruns hjob
    refine Job.below_move hmore.registry hjob ?_
    rintro kind name consequent alternate? scope rfl hkind
    exact ⟨kind, name, alternate?, by simp [rendered?, heq, hruns], hkind, rfl⟩

/-- Helpers that render below their scopes, whatever they are told, do so in every execution. -/
theorem rendersBelow_of_keepsScopes (hexpand : setting.KeepsRegistry Registry.KeepsScopes)
    (hstart : ∀ stood, start.Obeys (.below stood)) : start.RendersBelow setting := by
  intro trail e consequent alternate s jobs branch inner htrail heq hruns hasks
  obtain ⟨scope, hscope, hs⟩ :=
    (obeys_below hexpand hstart htrail).jobs (.script (.block consequent alternate) s) (by simp [heq])
  obtain ⟨links, hlinks⟩ := hs.exists_extend hasks
  exact ⟨scope, links, hscope, hlinks⟩

end Execution

/-- Templates that are rendered for helpers register only helpers that render below their scopes, if
all helpers do. -/
theorem keepsRegistry_keepsScopes (config : Config) (expansions : Nat) :
    Setting.KeepsRegistry Registry.KeepsScopes ⟨config, renderTemplate config expansions⟩ := by
  refine keepsRegistry_renderTemplate ?_ expansions
  rintro setting rfl hkeeps nodes data escape registry final hregistry hleads
  have hstart : ∀ stood, (Execution.ofNodes nodes data escape registry).Obeys (.below stood) := by
    refine fun stood => ⟨?_, hregistry, by simp [Execution.ofNodes], .inl trivial⟩
    intro job hjob
    rw [List.mem_singleton.1 hjob]
    trivial
  obtain ⟨trail, htrail⟩ := Execution.Trail.exists_of_leads hleads
  exact (Execution.obeys_below hkeeps hstart htrail).registry

-- ════════════════════════════════════════════════════════════════════════
-- Renderings
-- ════════════════════════════════════════════════════════════════════════

/-- An engine with a block helper that renders its branch with another current value. -/
def rebinding : Engine :=
  ⟨{}, Registry.addBlockHelper {} "rebind" Stock.rebind⟩

/-- A block for that helper, in which a path leads back to the scope of the block. -/
def reboundNodes : List Node :=
  [.block (.helper [.path ⟨[.name "a"]⟩]) "rebind" [.path ⟨[.parent, .name "b"]⟩ true] none]

namespace Engine

open Execution

theorem rendersBelow_start {e : Engine} (h : e.registry.KeepsScopes) (nodes : List Node)
    (data : Value) (sink : Sink) : (e.start nodes data sink).RendersBelow e.setting := by
  refine rendersBelow_of_keepsScopes (keepsRegistry_keepsScopes e.config _) fun stood => ?_
  refine ⟨?_, h, by simp [start], .inl trivial⟩
  intro job hjob
  rw [List.mem_singleton.1 hjob]
  trivial

/-- The chain of scopes is what the nesting says: links below the data are found link by link, and
where block helpers render their branches only below the scopes of their blocks, a rendering of the
data renders every node in the scope that it is nested in, which is a chain of links below the
data. -/
theorem scopes_follow_nesting (data : Value) :
    (∀ links, (Scope.chain data links).IsChain data links) ∧
      ∀ (e : Engine) (nodes : List Node) (sink : Sink),
        (e.start nodes data sink).RendersBelow e.setting →
          ∀ trail reached, Trail e.setting (e.start nodes data sink) trail reached →
            ∀ n scope, (n, scope) ∈ trail → Nests e.registry.Offers nodes data n scope ∧
              ∃ links, scope = .chain data links := by
  refine ⟨Scope.isChain_chain data, ?_⟩
  intro e nodes sink hbelow trail reached htrail n scope hn
  have hstart : (e.start nodes data sink).Obeys
      (.nested (Nests e.registry.Offers nodes data)) := by
    refine ⟨?_, trivial, fun _ _ => trivial, .inl trivial⟩
    intro job hjob
    rw [List.mem_singleton.1 hjob]
    exact fun n hn => .template hn
  have hpartials : ∀ point, Leads e.setting (e.start nodes data sink) point →
      ∀ name body, point.registry.partial? name = some body → e.registry.Offers name body :=
    fun point hpoint _ _ hfound => (within_reached hpoint).registry.partials hfound
  have hnests := (obeys_nested hbelow hpartials hstart htrail).2 n scope hn
  exact ⟨hnests, hnests.exists_chain⟩

theorem keepsScopes_rebinding : rebinding.registry.KeepsScopes := by
  have hempty : Registry.KeepsScopes {} := ⟨nofun, nofun⟩
  refine hempty.addBlockHelper "rebind" ?_
  intro scope arguments hasOther
  refine ⟨⟨[.child (Stock.argument arguments 0)], rfl⟩, ?_⟩
  rintro (_ | fault) <;> trivial

theorem scopes_follow_nesting_rebound :
    (rebinding.start reboundNodes (.keyed [("a", .null)]) {}).RendersBelow rebinding.setting ∧
      ∃ trail reached,
        Trail rebinding.setting (rebinding.start reboundNodes (.keyed [("a", .null)]) {}) trail
          reached ∧
        (.path ⟨[.parent, .name "b"]⟩ true,
          Scope.chain (.keyed [("a", .null)]) [.child .null]) ∈ trail ∧
        Nests rebinding.registry.Offers reboundNodes (.keyed [("a", .null)])
          (.path ⟨[.parent, .name "b"]⟩ true)
          (.chain (.keyed [("a", .null)]) [.child .null]) := by
  have hbelow := rendersBelow_start keepsScopes_rebinding reboundNodes (.keyed [("a", .null)]) {}
  have htrail : ∃ trail reached,
      Trail rebinding.setting (rebinding.start reboundNodes (.keyed [("a", .null)]) {}) trail
        reached ∧
      (.path ⟨[.parent, .name "b"]⟩ true,
        Scope.chain (.keyed [("a", .null)]) [.child .null]) ∈ trail := by
    refine ⟨_, _, .next (.next (.next (.next (.next .nil rfl) rfl) rfl) rfl) rfl, ?_⟩
    exact List.mem_cons_self
  obtain ⟨trail, reached, htrail, hn⟩ := htrail
  exact ⟨hbelow, trail, reached, htrail, hn,
    ((scopes_follow_nesting _).2 rebinding reboundNodes {} hbelow trail reached htrail _ _ hn).1⟩

end Engine

end TextTemplate

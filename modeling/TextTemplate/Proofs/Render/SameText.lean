import Mathlib.Data.Option.Basic
import TextTemplate.Engine
import TextTemplate.Proofs.Render.Places

/-!
# Renderings of the same text

A rendering into a sink that refuses nothing does not see in which chunks the text has come there.
So renderings whose parts give the same text come to the same: they end alike, and leave the same
text and the same registry. In particular a text may be cut in two wherever it stands.

## Main definitions

- `Stage.Same` — stages with the same text and the same registry
- `Render.Same` — renderings that come to the same from such stages
- `Splits` — nodes, and the same nodes with some texts cut in two
- `Rendered.Same` — what renderings that come to the same leave behind
-/

namespace TextTemplate

/-- Stages that escape alike, with the same text in sinks that refuse nothing, and with the same
registry. -/
structure Stage.Same (escape : Bool) (s s' : Stage) : Prop where
  escape : s.output.escape = escape ∧ s'.output.escape = escape
  limit : s.output.sink.limit = none ∧ s'.output.sink.limit = none
  text : s'.output.sink.text = s.output.sink.text
  registry : s'.registry = s.registry

namespace Render

/-- Results that end alike, at stages that are the same. -/
inductive SameResult (escape : Bool) {α : Type} :
    EStateM.Result Halt Stage α → EStateM.Result Halt Stage α → Prop
  | ok (a : α) {s s' : Stage} (h : s.Same escape s') : SameResult escape (.ok a s) (.ok a s')
  | error (halt : Halt) {s s' : Stage} (h : s.Same escape s') :
      SameResult escape (.error halt s) (.error halt s')

/-- Renderings that come to the same from stages that are the same. -/
def Same {α : Type} (x y : Render α) : Prop :=
  ∀ escape s s', s.Same escape s' → SameResult escape (x s) (y s')

variable {α β : Type} {x y : Render α}

theorem Same.pure (a : α) : Same (Pure.pure a : Render α) (Pure.pure a) :=
  fun _ _ _ h => .ok a h

theorem Same.bind {f g : α → Render β} (h : Same x y) (hf : ∀ a, Same (f a) (g a)) :
    Same (x >>= f) (y >>= g) := by
  intro escape s s' hs
  rw [bind_apply, bind_apply]
  have hfirst := h escape s s' hs
  generalize x s = first at hfirst ⊢
  generalize y s' = first' at hfirst ⊢
  cases hfirst with
  | ok a hs => exact hf a escape _ _ hs
  | error halt hs => exact .error halt hs

theorem Same.fail (e : RenderError) : Same (fail e : Render α) (fail e) :=
  fun _ _ _ h => .error (.fault e) h

theorem put_of_limit {output : Output} (h : output.sink.limit = none) (piece : Piece) :
    output.put piece =
      .ok { output with sink := output.sink.append [piece.chunk output.escape] } := by
  rw [Output.put_eq, if_pos (Sink.accepts_of_limit_eq_none h _)]

theorem Same.emit (piece : Piece) : Same (emit piece) (emit piece) := by
  rintro escape s s' ⟨⟨rfl, hescape⟩, ⟨hlimit, hlimit'⟩, htext, hregistry⟩
  simp only [Render.emit, put_of_limit hlimit, put_of_limit hlimit']
  refine .ok () ⟨⟨rfl, hescape⟩, ⟨hlimit, hlimit'⟩, ?_, hregistry⟩
  simp only [Sink.text_append, htext, hescape]

/-- A safe text may be written in two pieces. -/
theorem Same.emit_append (first second : String) :
    Same (Render.emit (.safe (first ++ second)))
      (do Render.emit (.safe first); Render.emit (.safe second)) := by
  rintro escape s s' ⟨⟨rfl, hescape⟩, ⟨hlimit, hlimit'⟩, htext, hregistry⟩
  have hlimit'' : ({ s'.output with sink := s'.output.sink.append [first] } : Output).sink.limit =
      none := hlimit'
  simp only [bind_apply, Render.emit, put_of_limit hlimit, put_of_limit hlimit', Piece.chunk,
    put_of_limit hlimit'']
  refine .ok () ⟨⟨rfl, hescape⟩, ⟨hlimit, hlimit'⟩, ?_, hregistry⟩
  simp [Sink.text_append, htext, String.append_assoc]

theorem Same.register (change : Registry → Registry) : Same (register change) (register change) := by
  rintro escape s s' ⟨hescape, hlimit, htext, hregistry⟩
  exact .ok () ⟨hescape, hlimit, htext, congrArg change hregistry⟩

theorem Same.find (look : Registry → Option α) (fault : RenderError) :
    Same (find look fault) (find look fault) := by
  intro escape s s' h
  rw [find_apply, find_apply, h.registry]
  cases look s.registry with
  | some found => exact .ok found h
  | none => exact .error _ h

/-- What comes next may depend on the registry. -/
theorem Same.get_bind {f g : Stage → Render α}
    (h : ∀ escape s s', s.Same escape s' → Same (f s) (g s')) :
    Same ((get : Render Stage) >>= f) ((get : Render Stage) >>= g) :=
  fun escape s s' hs => h escape s s' hs escape s s' hs

theorem Same.attempt {x y : Render Unit} (h : Same x y) : Same (attempt x) (attempt y) := by
  intro escape s s' hs
  have hresult := h escape s s' hs
  simp only [Render.attempt]
  generalize x s = result at hresult ⊢
  generalize y s' = result' at hresult ⊢
  cases hresult with
  | ok _ hs => exact .ok none hs
  | error halt hs =>
    cases halt with
    | fault fault => exact .ok (some fault) hs
    | exhausted => exact .error .exhausted hs

/-- What is rendered apart is the same text, and does not change the output. -/
theorem Same.captured {x y : Render Unit} (h : Same x y) (apart : Bool) :
    Same (captured apart x) (captured apart y) := by
  intro escape s s' hs
  have hstart : Stage.Same apart { s with output := ⟨apart, {}⟩ }
      { s' with output := ⟨apart, {}⟩ } :=
    ⟨⟨rfl, rfl⟩, ⟨rfl, rfl⟩, rfl, hs.registry⟩
  have hresult := h.attempt apart _ _ hstart
  simp only [Render.captured]
  generalize Render.attempt x _ = result at hresult ⊢
  generalize Render.attempt y _ = result' at hresult ⊢
  cases hresult with
  | ok fault? hafter =>
    simp only [hafter.text]
    exact .ok _ ⟨hs.escape, hs.limit, hs.text, hafter.registry⟩
  | error halt hafter => exact .error halt ⟨hs.escape, hs.limit, hs.text, hafter.registry⟩

end Render

open Render

-- ════════════════════════════════════════════════════════════════════════
-- Scripts
-- ════════════════════════════════════════════════════════════════════════

/-- What scripts are carried out with, where branches and templates of their own come to the
same. -/
structure Host.Same (host host' : Host) : Prop where
  config : host'.config = host.config
  render : ∀ branch scope, Render.Same (host.render branch scope) (host'.render branch scope)
  expand : ∀ nodes data, Render.Same (host.expand nodes data) (host'.expand nodes data)

theorem Script.same_run {host host' : Host} (h : host.Same host') (s : Script) :
    Render.Same (s.run host) (s.run host') := by
  induction s with
  | reply r => exact .pure r
  | fail fault => exact .fail fault
  | write piece next ih => exact (Same.emit piece).attempt.bind ih
  | render branch scope next ih => exact (h.render branch scope).attempt.bind ih
  | capture branch scope escape next ih => exact ((h.render branch scope).captured escape).bind ih
  | compile source next ih =>
    simp only [Script.run, h.config]
    exact ih _
  | expand nodes data next ih =>
    simp only [Script.run, h.config]
    exact ((h.expand nodes data).captured _).bind ih
  | defineHelper name helper next _ ih => exact (Same.register _).bind fun _ => ih
  | defineBlockHelper name helper next _ ih => exact (Same.register _).bind fun _ => ih
  | definePartial name nodes next ih => exact (Same.register _).bind fun _ => ih

-- ════════════════════════════════════════════════════════════════════════
-- Blocks
-- ════════════════════════════════════════════════════════════════════════

/-- What nodes are rendered with, where partials and templates of their own come to the same. -/
structure Env.Same (env env' : Env) : Prop where
  config : env'.config = env.config
  include? : Option.Rel (fun f f' => ∀ nodes scope, Render.Same (f nodes scope) (f' nodes scope))
    env.include? env'.include?
  expand : ∀ nodes data, Render.Same (env.expand nodes data) (env'.expand nodes data)

section

variable {body body' other other' : Scope → Render Unit}
  (hbody : ∀ scope, Render.Same (body scope) (body' scope))

include hbody

theorem same_renderItems (scope : Scope) (length index : Nat) (items : List Value) :
    Same (renderItems body scope length index items) (renderItems body' scope length index items) := by
  induction items generalizing index with
  | nil => exact .pure ()
  | cons item items ih => exact (hbody _).bind fun _ => ih (index + 1)

theorem same_renderMembers (scope : Scope) (length position : Nat)
    (members : List (String × Value)) :
    Same (renderMembers body scope length position members)
      (renderMembers body' scope length position members) := by
  induction members generalizing position with
  | nil => exact .pure ()
  | cons member members ih => exact (hbody _).bind fun _ => ih (position + 1)

variable (hother : ∀ scope, Render.Same (other scope) (other' scope))

include hother

theorem same_renderEach (scope : Scope) (value? : Option Value) :
    Same (renderEach body other scope value?) (renderEach body' other' scope value?) := by
  unfold renderEach
  split
  · exact same_renderItems hbody scope _ _ _
  · exact same_renderMembers hbody scope _ _ _
  · exact hother scope

theorem same_renderWithin (scope : Scope) (value? : Option Value) :
    Same (renderWithin body other scope value?) (renderWithin body' other' scope value?) := by
  unfold renderWithin
  split
  · split
    · exact hbody _
    · exact hother scope
  · exact hother scope

theorem same_renderSection (scope : Scope) (value? : Option Value) :
    Same (renderSection body other scope value?) (renderSection body' other' scope value?) := by
  unfold renderSection
  split
  · exact same_renderEach hbody hother scope _
  · exact same_renderWithin hbody hother scope _

variable {env env' : Env} (henv : env.Same env')

include henv

theorem Env.Same.runBlock (helper : BlockHelper) (scope : Scope) (arguments : List Value)
    (hasOther : Bool) :
    Render.Same (env.runBlock helper scope arguments hasOther body other)
      (env'.runBlock helper scope arguments hasOther body' other') := by
  refine (Script.same_run ⟨henv.config, ?_, henv.expand⟩ _).bind fun _ => .pure ()
  intro branch scope
  cases branch with
  | main => exact hbody scope
  | other => exact hother scope

/-- Blocks come to the same if their branches do. -/
theorem BlockKind.same_render (kind : BlockKind) (name : String) (hasOther : Bool) (scope : Scope) :
    Render.Same (kind.render env name hasOther body other scope)
      (kind.render env' name hasOther body' other' scope) := by
  cases kind with
  | conditional argument =>
    simp only [BlockKind.render]
    split
    · exact hbody scope
    · exact hother scope
  | negated argument =>
    simp only [BlockKind.render]
    split
    · exact hother scope
    · exact hbody scope
  | each argument => exact same_renderEach hbody hother scope _
  | within argument => exact same_renderWithin hbody hother scope _
  | implicit path =>
    refine .get_bind fun escape s s' hs => ?_
    rw [hs.registry]
    cases path.name?.bind s.registry.blockHelper? with
    | some found => exact henv.runBlock hbody hother found scope [] hasOther
    | none => exact same_renderSection hbody hother scope _
  | helper arguments =>
    exact (Render.Same.find _ _).bind fun found => henv.runBlock hbody hother found scope _ hasOther

end

-- ════════════════════════════════════════════════════════════════════════
-- Nodes
-- ════════════════════════════════════════════════════════════════════════

/-- Nodes, and the same nodes with some texts cut in two, also in the branches of blocks. -/
inductive Splits : List Node → List Node → Prop
  | nil : Splits [] []
  | leaf {n : Node} {ns ns' : List Node} (hleaf : n.IsLeaf) (h : Splits ns ns') :
      Splits (n :: ns) (n :: ns')
  | block (kind : BlockKind) (name : String) {body body' ns ns' : List Node}
      (hbody : Splits body body') (h : Splits ns ns') :
      Splits (.block kind name body none :: ns) (.block kind name body' none :: ns')
  | blockElse (kind : BlockKind) (name : String) {body body' other other' ns ns' : List Node}
      (hbody : Splits body body') (hother : Splits other other') (h : Splits ns ns') :
      Splits (.block kind name body (some other) :: ns)
        (.block kind name body' (some other') :: ns')
  | cut (first second : String) {ns ns' : List Node} (h : Splits ns ns') :
      Splits (.text (first ++ second) :: ns) (.text first :: .text second :: ns')

namespace Splits

mutual

theorem node (n : Node) {ns ns' : List Node} (h : Splits ns ns') : Splits (n :: ns) (n :: ns') :=
  match n with
  | .text _ | .path _ _ | .literal _ _ | .call _ _ _ | .partialRef _ _ => .leaf trivial h
  | .block kind name body none => .block kind name (refl body) h
  | .block kind name body (some other) => .blockElse kind name (refl body) (refl other) h

theorem refl (ns : List Node) : Splits ns ns :=
  match ns with
  | [] => .nil
  | n :: ns => node n (refl ns)

end

theorem append {ns ns' more more' : List Node} (h : Splits ns ns') (hmore : Splits more more') :
    Splits (ns ++ more) (ns' ++ more') := by
  induction h with
  | nil => exact hmore
  | leaf hleaf _ ih => exact .leaf hleaf ih
  | block kind name hbody _ _ ih => exact .block kind name hbody ih
  | blockElse kind name hbody hother _ _ _ ih => exact .blockElse kind name hbody hother ih
  | cut first second _ ih => exact .cut first second ih

end Splits

section

variable {env env' : Env} (henv : env.Same env')

include henv

theorem Env.Same.renderPartial (name : String) (context? : Option Param) (scope : Scope) :
    Render.Same (env.renderPartial name context? scope) (env'.renderPartial name context? scope) := by
  refine (Render.Same.find _ _).bind fun nodes => ?_
  have hinclude := henv.include?
  rw [henv.config]
  generalize env.include? = include? at hinclude ⊢
  generalize env'.include? = include?' at hinclude ⊢
  cases hinclude with
  | none => exact .fail _
  | some hrender =>
    cases context? with
    | none => exact hrender nodes scope
    | some param => exact hrender nodes _

theorem Env.Same.renderCall (name : String) (arguments : List Param) (escaped : Bool)
    (scope : Scope) :
    Render.Same (env.renderCall name arguments escaped scope)
      (env'.renderCall name arguments escaped scope) := by
  refine (Render.Same.find _ _).bind fun helper => ?_
  refine (Script.same_run ⟨henv.config, fun _ _ => .pure (), henv.expand⟩ _).bind fun reply => ?_
  cases reply with
  | nothing => exact .pure ()
  | value v => exact .emit _
  | safe s => exact .emit _

theorem Env.Same.render_leaf {n : Node} (h : n.IsLeaf) (scope : Scope) :
    Render.Same (n.render env scope) (n.render env' scope) := by
  cases n with
  | block => exact h.elim
  | text s => exact .emit _
  | path p escaped =>
    simp only [Node.render]
    split
    · exact .emit _
    · exact .pure ()
  | literal v escaped => exact .emit _
  | call name arguments escaped => exact henv.renderCall name arguments escaped scope
  | partialRef name context? => exact henv.renderPartial name context? scope

/-- Nodes come to the same whether or not texts among them are cut in two. -/
theorem Splits.same_renderNodes {ns ns' : List Node} (h : Splits ns ns') (scope : Scope) :
    Same (renderNodes env ns scope) (renderNodes env' ns' scope) := by
  induction h generalizing scope with
  | nil => exact .pure ()
  | leaf hleaf _ ih =>
    simp only [renderNodes]
    exact (henv.render_leaf hleaf scope).bind fun _ => ih scope
  | block kind name _ _ ihBody ih =>
    simp only [renderNodes, Node.render]
    refine (BlockKind.same_render ihBody (fun _ => ?_) henv kind name _ scope).bind fun _ => ih scope
    exact .pure ()
  | blockElse kind name _ _ _ ihBody ihOther ih =>
    simp only [renderNodes, Node.render]
    refine (BlockKind.same_render ihBody (fun scope => ?_) henv kind name _ scope).bind
      fun _ => ih scope
    exact ihOther scope
  | cut first second _ ih =>
    simp only [renderNodes, Node.render]
    have htexts := (Same.emit_append first second).bind fun _ => ih scope
    simpa only [bind_assoc] using htexts

end

/-- What nodes are rendered with comes to the same if templates of their own do. -/
theorem same_envAt (config : Config) {expand expand' : List Node → Value → Render Unit}
    (h : ∀ nodes data, Same (expand nodes data) (expand' nodes data)) (depth : Nat) :
    (envAt config expand depth).Same (envAt config expand' depth) := by
  induction depth with
  | zero => exact ⟨rfl, .none, h⟩
  | succ depth ih =>
    exact ⟨rfl, .some fun nodes scope => (Splits.refl nodes).same_renderNodes ih scope, h⟩

/-- A template comes to the same whether or not texts in it are cut in two. -/
theorem Splits.same_renderTemplate (config : Config) (expansions : Nat) {ns ns' : List Node}
    (h : Splits ns ns') (data : Value) :
    Same (renderTemplate config expansions ns data) (renderTemplate config expansions ns' data) := by
  induction expansions generalizing ns ns' data with
  | zero => exact fun _ _ _ hs => .error .exhausted hs
  | succ expansions ih =>
    have henv := same_envAt config (fun nodes data => ih (Splits.refl nodes) data)
      config.maxPartialDepth
    exact h.same_renderNodes henv (.root data)

-- ════════════════════════════════════════════════════════════════════════
-- Engines
-- ════════════════════════════════════════════════════════════════════════

/-- Renderings that end alike, with the same text and the same engine. -/
structure Rendered.Same (r r' : Rendered) : Prop where
  outcome : r'.outcome = r.outcome
  text : r'.sink.text = r.sink.text
  engine : r'.engine = r.engine

variable {sink : Sink}

/-- The stage at the start of a rendering is the same as itself. -/
theorem Engine.same_start (e : Engine) (hsink : sink.limit = none) :
    Stage.Same e.config.escapeHtml ⟨⟨e.config.escapeHtml, sink⟩, e.registry⟩
      ⟨⟨e.config.escapeHtml, sink⟩, e.registry⟩ :=
  ⟨⟨rfl, rfl⟩, ⟨hsink, hsink⟩, rfl, rfl⟩

/-- An engine renders a template alike whether or not texts in it are cut in two. -/
theorem Splits.same_render {ns ns' : List Node} (h : Splits ns ns') (e : Engine)
    (data : Except String Value) (hsink : sink.limit = none) :
    (e.render ns data sink).Same (e.render ns' data sink) := by
  cases data with
  | error message => exact ⟨rfl, rfl, rfl⟩
  | ok value =>
    have hresult := h.same_renderTemplate e.config maxExpansions value _ _ _ (e.same_start hsink)
    simp only [Engine.render, Engine.renderValue]
    generalize renderTemplate e.config maxExpansions ns value _ = result at hresult ⊢
    generalize renderTemplate e.config maxExpansions ns' value _ = result' at hresult ⊢
    cases hresult with
    | ok _ hs => exact ⟨rfl, hs.text, congrArg (Engine.mk e.config) hs.registry⟩
    | error halt hs => exact ⟨rfl, hs.text, congrArg (Engine.mk e.config) hs.registry⟩

end TextTemplate

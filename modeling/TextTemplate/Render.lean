import TextTemplate.Parser
import TextTemplate.Script

/-!
# Rendering

Nodes are rendered one after the other against a scope. What they write and register is kept also
where a fault ends the rendering. Helpers, block helpers and partials are looked up when they are
reached, so they may be registered after the templates that use them, and while these are rendered.

Rendering always ends: nodes and scripts are finite, partials are counted against a limit, and so
are the templates that helpers expand inside one another.

## Main definitions

- `Config` — the choices that hold for all templates of an engine
- `Stage`, `Halt`, `Render` — what rendering changes, and what ends it early
- `Script.run` — carries out what a helper does
- `Node.render`, `renderNodes` — render nodes in a scope
- `renderTemplate` — renders the nodes of a template against its data
-/

namespace TextTemplate

/-- Whether double tags are escaped, how deeply partials may include one another, and how deeply
blocks may nest in a source. -/
structure Config where
  escapeHtml : Bool := true
  maxPartialDepth : Nat := 64
  maxBlockDepth : Nat := defaultBlockDepth
  deriving DecidableEq, Repr

/-- What rendering changes: the output, and the registry. -/
structure Stage where
  output : Output
  registry : Registry

/-- What ends a rendering early: a fault, or too many templates expanded inside one another. -/
inductive Halt
  | fault (e : RenderError)
  | exhausted

/-- A rendering changes the stage, which is kept also where it halts. -/
abbrev Render := EStateM Halt Stage

namespace Render

/-- Ends with a fault. -/
def fail {α : Type} (e : RenderError) : Render α :=
  throw (.fault e)

/-- Writes a piece to the output. -/
def emit (piece : Piece) : Render Unit := fun stage =>
  match stage.output.put piece with
  | .ok output => .ok () { stage with output }
  | .error e => .error (.fault e) stage

/-- Changes the registry. -/
def register (change : Registry → Registry) : Render Unit :=
  modify fun stage => { stage with registry := change stage.registry }

/-- What the registry holds under a name, or the fault that it holds nothing. -/
def find {α : Type} (look : Registry → Option α) (fault : RenderError) : Render α := do
  match look (← get).registry with
  | some found => pure found
  | none => fail fault

/-- Hands back the fault that ended a rendering, if any. -/
def attempt (action : Render Unit) : Render (Option RenderError) := fun stage =>
  match action stage with
  | .ok _ after => .ok none after
  | .error (.fault e) after => .ok (some e) after
  | .error .exhausted after => .error .exhausted after

/-- Renders into a text of its own, and hands back the text with the fault that ended it. -/
def captured (escape : Bool) (action : Render Unit) : Render Captured := fun stage =>
  match attempt action { stage with output := ⟨escape, {}⟩ } with
  | .ok fault? after => .ok ⟨after.output.sink.text, fault?⟩ { after with output := stage.output }
  | .error halt after => .error halt { after with output := stage.output }

end Render

open Render

/-- What a script is carried out with: the choices of the engine, the branches of the helper's
block, and the rendering of a template of its own. -/
structure Host where
  config : Config
  render : Branch → Scope → Render Unit
  expand : List Node → Value → Render Unit

/-- Carries out what a helper does. -/
def Script.run (host : Host) : Script → Render Reply
  | .reply r => pure r
  | .fail fault => Render.fail fault
  | .write piece next => do
    let fault? ← attempt (emit piece)
    (next fault?).run host
  | .render branch scope next => do
    let fault? ← attempt (host.render branch scope)
    (next fault?).run host
  | .capture branch scope escape next => do
    let c ← captured escape (host.render branch scope)
    (next c).run host
  | .compile source next => (next (parseTemplate host.config.maxBlockDepth source)).run host
  | .expand nodes data next => do
    let c ← captured host.config.escapeHtml (host.expand nodes data)
    (next c).run host
  | .defineHelper name helper next => do
    register (·.addHelper name helper)
    next.run host
  | .defineBlockHelper name helper next => do
    register (·.addBlockHelper name helper)
    next.run host
  | .definePartial name nodes next => do
    register (·.addPartial name nodes)
    next.run host

/-- What nodes are rendered with: the choices of the engine, the rendering of an included partial
unless the limit is reached, and the rendering of a template of its own. -/
structure Env where
  config : Config
  include? : Option (List Node → Scope → Render Unit)
  expand : List Node → Value → Render Unit

/-- The value of an argument, if it is not missing. -/
def Param.value? (scope : Scope) : Param → Option Value
  | .path p => scope.resolve p
  | .literal v => some v

/-- The value of an argument; what is missing is null. -/
def Param.value (scope : Scope) (param : Param) : Value :=
  (param.value? scope).getD .null

/-- Writes what a helper hands back. -/
def Reply.emit (escaped : Bool) : Reply → Render Unit
  | .nothing => pure ()
  | .value v => Render.emit (.value v escaped)
  | .safe s => Render.emit (.safe s)

/-- Renders once for every item of a sequence, from an index on. -/
def renderItems (body : Scope → Render Unit) (scope : Scope) (length : Nat) :
    Nat → List Value → Render Unit
  | _, [] => pure ()
  | index, item :: items => do
    body (.item scope item index length)
    renderItems body scope length (index + 1) items

/-- Renders once for every member of a keyed collection, from a position on. -/
def renderMembers (body : Scope → Render Unit) (scope : Scope) (length : Nat) :
    Nat → List (String × Value) → Render Unit
  | _, [] => pure ()
  | position, (key, value) :: members => do
    body (.entry scope value key position length)
    renderMembers body scope length (position + 1) members

/-- Renders a body once for every member of a value, or the other branch if there is none. -/
def renderEach (body other : Scope → Render Unit) (scope : Scope) (value? : Option Value) :
    Render Unit :=
  match value?.bind Value.entries? with
  | some (.sequence (item :: items)) =>
    renderItems body scope (items.length + 1) 0 (item :: items)
  | some (.keyed (member :: members)) =>
    renderMembers body scope (members.length + 1) 0 (member :: members)
  | _ => other scope

/-- Renders a body with a true value as the current one, or the other branch if it is not true. -/
def renderWithin (body other : Scope → Render Unit) (scope : Scope) (value? : Option Value) :
    Render Unit :=
  match value? with
  | some v => if v.isTruthy then body (.child scope v) else other scope
  | none => other scope

/-- A section: once for every item of a sequence, and once within any other true value. -/
def renderSection (body other : Scope → Render Unit) (scope : Scope) (value? : Option Value) :
    Render Unit :=
  match value? with
  | some (.sequence _) => renderEach body other scope value?
  | _ => renderWithin body other scope value?

/-- Runs a block helper with the branches of its block; what it hands back is not written. -/
def Env.runBlock (env : Env) (helper : BlockHelper) (scope : Scope) (arguments : List Value)
    (hasOther : Bool) (body other : Scope → Render Unit) : Render Unit := do
  let render : Branch → Scope → Render Unit
    | .main => body
    | .other => other
  let _ ← (helper scope arguments hasOther).run ⟨env.config, render, env.expand⟩

/-- Renders a block from its branches. -/
def BlockKind.render (env : Env) (kind : BlockKind) (name : String) (hasOther : Bool)
    (body other : Scope → Render Unit) (scope : Scope) : Render Unit :=
  match kind with
  | conditional argument =>
    if Value.isPresentAndTruthy (argument.value? scope) then body scope else other scope
  | negated argument =>
    if Value.isPresentAndTruthy (argument.value? scope) then other scope else body scope
  | each argument => renderEach body other scope (argument.value? scope)
  | within argument => renderWithin body other scope (argument.value? scope)
  | implicit path => do
    match path.name?.bind (← get).registry.blockHelper? with
    | some found => env.runBlock found scope [] hasOther body other
    | none => renderSection body other scope (scope.resolve path)
  | helper arguments => do
    let found ← find (·.blockHelper? name) (.missingHelper name)
    env.runBlock found scope (arguments.map (Param.value scope)) hasOther body other

/-- Renders an included partial: in the current scope, or below it with a value of its own. -/
def Env.renderPartial (env : Env) (name : String) (context? : Option Param) (scope : Scope) :
    Render Unit := do
  let nodes ← find (·.partial? name) (.missingPartial name)
  match env.include? with
  | none => fail (.partialDepth name env.config.maxPartialDepth)
  | some render =>
    match context? with
    | none => render nodes scope
    | some param => render nodes (.child scope (param.value scope))

/-- Renders a call of a helper and writes what it hands back. -/
def Env.renderCall (env : Env) (name : String) (arguments : List Param) (escaped : Bool)
    (scope : Scope) : Render Unit := do
  let helper ← find (·.helper? name) (.missingHelper name)
  let reply ← (helper scope (arguments.map (Param.value scope))).run
    ⟨env.config, fun _ _ => pure (), env.expand⟩
  reply.emit escaped

mutual

/-- Renders a node in a scope. -/
def Node.render (env : Env) : Node → Scope → Render Unit
  | .text s, _ => emit (.safe s)
  | .path p escaped, scope =>
    match scope.resolve p with
    | some v => emit (.value v escaped)
    | none => pure ()
  | .literal v escaped, _ => emit (.value v escaped)
  | .call name arguments escaped, scope => env.renderCall name arguments escaped scope
  | .block kind name consequent alternate?, scope =>
    kind.render env name alternate?.isSome (renderNodes env consequent)
      (renderBranch env alternate?) scope
  | .partialRef name context?, scope => env.renderPartial name context? scope

/-- Renders nodes in a scope, one after the other. -/
def renderNodes (env : Env) : List Node → Scope → Render Unit
  | [], _ => pure ()
  | node :: nodes, scope => do
    node.render env scope
    renderNodes env nodes scope

/-- Renders a branch that may be absent. -/
def renderBranch (env : Env) : Option (List Node) → Scope → Render Unit
  | none, _ => pure ()
  | some nodes, scope => renderNodes env nodes scope

end

/-- What nodes are rendered with where partials may still be included to a depth. -/
def envAt (config : Config) (expand : List Node → Value → Render Unit) : Nat → Env
  | 0 => ⟨config, none, expand⟩
  | depth + 1 =>
    ⟨config, some fun nodes scope => renderNodes (envAt config expand depth) nodes scope, expand⟩

/-- Renders the nodes of a template against its data, with a number of templates that may be
rendered inside one another. -/
def renderTemplate (config : Config) : Nat → List Node → Value → Render Unit
  | 0, _, _ => throw .exhausted
  | expansions + 1, nodes, data =>
    renderNodes (envAt config (renderTemplate config expansions) config.maxPartialDepth) nodes
      (.root data)

end TextTemplate

import TextTemplate.Render

/-!
# Engines

An engine reads templates and renders them with what is registered on it.

## Main definitions

- `Engine` — choices and a registry
- `Engine.compile` — the nodes of a source
- `Engine.render` — renders nodes into a sink
-/

namespace TextTemplate

/-- How many templates may be expanded inside one another by helpers. The bound is there for
rendering to be a total function, and is no choice of an engine: otherwise only the stack bounds
helpers that expand templates without end. A rendering that comes to it is `exhausted`, which is not
a fault that a helper is told of. -/
def maxExpansions : Nat := 1000

/-- The choices for a family of templates, and what is registered for them. -/
structure Engine where
  config : Config := {}
  registry : Registry := {}

/-- What a rendering leaves behind: how it ended, the sink, and the engine. -/
structure Rendered where
  outcome : Except Halt Unit
  sink : Sink
  engine : Engine

namespace Engine

/-- The nodes of a source. -/
def compile (e : Engine) (source : String) : Except ParseError (List Node) :=
  parseTemplate e.config.maxBlockDepth source

/-- The engine with a helper. -/
def addHelper (e : Engine) (name : String) (helper : Helper) : Engine :=
  { e with registry := e.registry.addHelper name helper }

/-- The engine with a block helper. -/
def addBlockHelper (e : Engine) (name : String) (helper : BlockHelper) : Engine :=
  { e with registry := e.registry.addBlockHelper name helper }

/-- The engine with a partial. -/
def addPartial (e : Engine) (name : String) (nodes : List Node) : Engine :=
  { e with registry := e.registry.addPartial name nodes }

/-- The engine with a partial read from a source. -/
def addPartialSource (e : Engine) (name source : String) : Except ParseError Engine :=
  (e.compile source).map (e.addPartial name)

/-- Renders nodes against data into a sink. -/
def renderValue (e : Engine) (nodes : List Node) (data : Value) (sink : Sink) : Rendered :=
  let stage : Stage := ⟨⟨e.config.escapeHtml, sink⟩, e.registry⟩
  match renderTemplate e.config maxExpansions nodes data stage with
  | .ok _ stage => ⟨.ok (), stage.output.sink, { e with registry := stage.registry }⟩
  | .error halt stage => ⟨.error halt, stage.output.sink, { e with registry := stage.registry }⟩

/-- Renders nodes against data that may turn out not to be convertible, with a message why. -/
def render (e : Engine) (nodes : List Node) (data : Except String Value) (sink : Sink) : Rendered :=
  match data with
  | .ok value => e.renderValue nodes value sink
  | .error message => ⟨.error (.fault (.data (.ofMessage message))), sink, e⟩

end Engine

end TextTemplate

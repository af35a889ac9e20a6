import TextTemplate.Engine

/-!
# Sessions

A session keeps engines and templates by name. Engines that are clones of one another are one
family: they share choices and registry, so what is registered on one is found by all. A template
belongs to the family it was compiled for; a partial is only its nodes.

## Main definitions

- `Session` — engines and templates by name
- `Step`, `Answer` — what a session is asked, and what it answers
- `Session.take` — the answer to a step and the session after it
- `Session.run` — the answers to a row of steps
-/

namespace TextTemplate

/-- How an engine is named: the session's own one, the one shared by a whole process, or one that
was made under an id. -/
inductive EngineName
  | own
  | shared
  | made (id : String)
  deriving DecidableEq, Repr

/-- A compiled template: its nodes, and the family it was compiled for. -/
structure Template where
  nodes : List Node
  family : Nat

/-- Engine families by number, the families of engine names, and templates by id; names and ids last
given first. -/
structure Session where
  families : List Engine
  engines : List (EngineName × Nat)
  templates : List (String × Template)

/-- What a session is asked. -/
inductive Step
  | newEngine (id : String) (config : Config)
  | cloneEngine (id : String) (engine : EngineName)
  | compile (id source : String) (engine : EngineName)
  | addHelper (name : String) (helper : Helper) (engine : EngineName)
  | addBlockHelper (name : String) (helper : BlockHelper) (engine : EngineName)
  | addPartial (name template : String) (engine : EngineName)
  | addPartialSource (name source : String) (engine : EngineName)
  | render (template : String) (data : Except String Value) (sink : Sink)

/-- What a session answers. -/
inductive Answer
  | done
  | unknownEngine
  | unknownTemplate
  | rejected (e : ParseError)
  | rendered (outcome : Except Halt Unit) (text : String)

namespace Session

/-- A new session: the two engines that need not be made, each a family of its own. -/
def start : Session :=
  ⟨[{}, {}], [(.own, 0), (.shared, 1)], []⟩

/-- The family of an engine name, by number, and its engine. -/
def family? (s : Session) (name : EngineName) : Option (Nat × Engine) := do
  let number ← s.engines.lookup name
  let engine ← s.families[number]?
  pure (number, engine)

/-- Puts an engine in the place of a family. -/
def setFamily (s : Session) (number : Nat) (engine : Engine) : Session :=
  { s with families := s.families.set number engine }

/-- Changes the family of a named engine, if there is one. -/
def onEngine (s : Session) (name : EngineName)
    (change : Nat → Engine → Answer × Session) : Answer × Session :=
  match s.family? name with
  | none => (.unknownEngine, s)
  | some (number, engine) => change number engine

/-- The answer to a step and the session after it. The engine is looked for before anything else
that a step names. -/
def take (s : Session) : Step → Answer × Session
  | .newEngine id config =>
    (.done, { s with
      families := s.families ++ [{ config }]
      engines := (.made id, s.families.length) :: s.engines })
  | .cloneEngine id engine =>
    s.onEngine engine fun number _ =>
      (.done, { s with engines := (.made id, number) :: s.engines })
  | .compile id source engine =>
    s.onEngine engine fun family e =>
      match e.compile source with
      | .error fault => (.rejected fault, s)
      | .ok nodes => (.done, { s with templates := (id, ⟨nodes, family⟩) :: s.templates })
  | .addHelper name helper engine =>
    s.onEngine engine fun number e => (.done, s.setFamily number (e.addHelper name helper))
  | .addBlockHelper name helper engine =>
    s.onEngine engine fun number e => (.done, s.setFamily number (e.addBlockHelper name helper))
  | .addPartial name template engine =>
    s.onEngine engine fun number e =>
      match s.templates.lookup template with
      | none => (.unknownTemplate, s)
      | some t => (.done, s.setFamily number (e.addPartial name t.nodes))
  | .addPartialSource name source engine =>
    s.onEngine engine fun number e =>
      match e.addPartialSource name source with
      | .error fault => (.rejected fault, s)
      | .ok e => (.done, s.setFamily number e)
  | .render template data sink =>
    match s.templates.lookup template with
    | none => (.unknownTemplate, s)
    | some t =>
      match s.families[t.family]? with
      | none => (.unknownEngine, s)
      | some e =>
        let result := e.render t.nodes data sink
        (.rendered result.outcome result.sink.text, s.setFamily t.family result.engine)

/-- The answers to a row of steps. -/
def run (s : Session) : List Step → List Answer
  | [] => []
  | step :: steps => (s.take step).1 :: (s.take step).2.run steps

end Session

end TextTemplate

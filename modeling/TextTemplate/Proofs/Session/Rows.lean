import TextTemplate.Proofs.Registration
import TextTemplate.Session

/-!
# Rows of steps

What one step can change: a compilation adds at most one template and changes nothing else, and a
step that registers something changes the registry of one family, and nothing else.

## Main definitions

- `Session.after` — the session after a row of steps
- `Session.place?` — the family of a named engine and its choices
- `Request`, `Step.request?` — what a step asks to be registered, and on which engine
- `Step.template?` — the template that a step asks for
-/

namespace TextTemplate

/-- An engine after a registration. -/
def Engine.register (e : Engine) (g : Registration) : Engine :=
  { e with registry := e.registry.add g }

/-- What a step asks to be registered. -/
inductive Request
  /-- A helper or a block helper. -/
  | helper (g : Registration)
  /-- A partial, from a compiled template. -/
  | template (name id : String)
  /-- A partial, from a source. -/
  | source (name source : String)

/-- What is registered, or the answer that nothing is: by the nodes of templates, and by the choices
of the engine. -/
def Request.resolve (nodes? : String → Option (List Node)) (config : Config) :
    Request → Except Answer Registration
  | helper g => .ok g
  | template name id =>
    match nodes? id with
    | some nodes => .ok (.nodes name nodes)
    | none => .error .unknownTemplate
  | source name text =>
    match parseTemplate config.maxBlockDepth text with
    | .ok nodes => .ok (.nodes name nodes)
    | .error fault => .error (.rejected fault)

/-- What a step asks to be registered, and on which engine. -/
def Step.request? : Step → Option (EngineName × Request)
  | addHelper name helper engine => some (engine, .helper (.helper name helper))
  | addBlockHelper name helper engine => some (engine, .helper (.blockHelper name helper))
  | addPartial name id engine => some (engine, .template name id)
  | addPartialSource name source engine => some (engine, .source name source)
  | newEngine _ _ | cloneEngine _ _ | compile _ _ _ | render _ _ _ => none

/-- The template that a step asks for. -/
def Step.template? : Step → Option String
  | addPartial _ id _ => some id
  | render id _ _ => some id
  | newEngine _ _ | cloneEngine _ _ | compile _ _ _ | addHelper _ _ _ | addBlockHelper _ _ _
  | addPartialSource _ _ _ => none

/-- The text of a rendering that came to its end. -/
def Answer.text? : Answer → Option String
  | rendered (.ok _) text => some text
  | rendered (.error _) _ | done | unknownEngine | unknownTemplate | rejected _ => none

namespace Session

-- ════════════════════════════════════════════════════════════════════════
-- Rows
-- ════════════════════════════════════════════════════════════════════════

/-- The session after a row of steps. -/
def after (s : Session) : List Step → Session
  | [] => s
  | step :: steps => (s.take step).2.after steps

theorem after_append (s : Session) (steps more : List Step) :
    s.after (steps ++ more) = (s.after steps).after more := by
  induction steps generalizing s with
  | nil => rfl
  | cons step steps ih => exact ih _

/-- Later steps are answered by the session after the earlier ones. -/
theorem run_append (s : Session) (steps more : List Step) :
    s.run (steps ++ more) = s.run steps ++ (s.after steps).run more := by
  induction steps generalizing s with
  | nil => rfl
  | cons step steps ih => exact congrArg ((s.take step).1 :: ·) (ih _)

-- ════════════════════════════════════════════════════════════════════════
-- Engines
-- ════════════════════════════════════════════════════════════════════════

variable {s s' : Session} {id : String} {step : Step}

/-- The family of a named engine, by number, and its choices. -/
def place? (s : Session) (name : EngineName) : Option (Nat × Config) :=
  (s.family? name).map fun (number, e) => (number, e.config)

/-- The nodes of a template. -/
def nodes? (s : Session) (id : String) : Option (List Node) :=
  (s.templates.lookup id).map Template.nodes

theorem family?_eq (s : Session) (name : EngineName) :
    s.family? name = (s.engines.lookup name).bind fun number =>
      (s.families[number]?).map fun e => (number, e) := by
  unfold family?
  cases s.engines.lookup name with
  | none => rfl
  | some number => cases h : s.families[number]? <;> simp [h]

theorem getElem?_of_family? {name : EngineName} {number : Nat} {e : Engine}
    (h : s.family? name = some (number, e)) : s.families[number]? = some e := by
  rw [family?_eq, Option.bind_eq_some_iff] at h
  obtain ⟨number', -, h⟩ := h
  obtain ⟨e', he, h⟩ := Option.map_eq_some_iff.1 h
  cases h
  exact he

/-- A named engine has its place by the names of engines and the choices of families alone. -/
theorem place?_congr (hengines : s'.engines = s.engines)
    (hconfigs : s'.families.map Engine.config = s.families.map Engine.config)
    (name : EngineName) : s'.place? name = s.place? name := by
  have hconfig : ∀ number : Nat,
      (s'.families[number]?).map Engine.config = (s.families[number]?).map Engine.config := by
    intro number
    rw [← List.getElem?_map, hconfigs, List.getElem?_map]
  unfold place?
  rw [family?_eq, family?_eq, hengines]
  cases s.engines.lookup name with
  | none => rfl
  | some number =>
    have hnumber := congrArg (Option.map (number, ·)) (hconfig number)
    simpa [Function.comp_def] using hnumber

/-- An engine in its own place changes nothing. -/
theorem setFamily_self {number : Nat} {e : Engine} (h : s.families[number]? = some e) :
    s.setFamily number e = s := by
  obtain ⟨hlt, rfl⟩ := List.getElem?_eq_some_iff.1 h
  unfold setFamily
  rw [List.set_getElem_self]

/-- An engine with the same choices in the place of another one changes no choices. -/
theorem map_config_set {number : Nat} {e e' : Engine} (h : s.families[number]? = some e)
    (hconfig : e'.config = e.config) :
    (s.families.set number e').map Engine.config = s.families.map Engine.config := by
  have hmap : (s.families.map Engine.config)[number]? = some e.config := by
    rw [List.getElem?_map, h]
    rfl
  obtain ⟨hlt, hget⟩ := List.getElem?_eq_some_iff.1 hmap
  rw [List.map_set, hconfig, ← hget, List.set_getElem_self]

-- ════════════════════════════════════════════════════════════════════════
-- Steps
-- ════════════════════════════════════════════════════════════════════════

/-- What a compilation does depends on the place of the engine alone. -/
theorem take_compile (s : Session) (id source : String) (engine : EngineName) :
    s.take (.compile id source engine) =
      match s.place? engine with
      | none => (.unknownEngine, s)
      | some (family, config) =>
        match parseTemplate config.maxBlockDepth source with
        | .error fault => (.rejected fault, s)
        | .ok nodes => (.done, { s with templates := (id, ⟨nodes, family⟩) :: s.templates }) := by
  simp only [take, onEngine, place?, Engine.compile]
  cases s.family? engine <;> rfl

/-- A compilation adds at most one template, and changes nothing else. -/
theorem take_compile_cases (s : Session) (id source : String) (engine : EngineName) :
    (s.take (.compile id source engine)).2 = s ∨
      ∃ template, (s.take (.compile id source engine)).2 =
        { s with templates := (id, template) :: s.templates } := by
  rw [take_compile]
  split
  · exact .inl rfl
  · split
    · exact .inl rfl
    · exact .inr ⟨_, rfl⟩

/-- A step that asks for a registration changes the registry of one family, or nothing. -/
theorem take_of_request {engine : EngineName} {request : Request}
    (h : step.request? = some (engine, request)) (s : Session) :
    s.take step = s.onEngine engine fun number e =>
      match request.resolve s.nodes? e.config with
      | .ok g => (.done, s.setFamily number (e.register g))
      | .error answer => (answer, s) := by
  cases step with
  | newEngine | cloneEngine | compile | render => cases h
  | addHelper | addBlockHelper =>
    cases h
    simp only [take, onEngine, Request.resolve]
    cases s.family? engine <;> rfl
  | addPartial name id engine =>
    cases h
    simp only [take, onEngine, Request.resolve, nodes?]
    cases s.family? engine with
    | none => rfl
    | some place => cases s.templates.lookup id <;> rfl
  | addPartialSource name source engine =>
    cases h
    simp only [take, onEngine, Request.resolve, Engine.addPartialSource, Engine.compile]
    cases s.family? engine with
    | none => rfl
    | some place =>
      simp only
      cases parseTemplate place.2.config.maxBlockDepth source <;> rfl

end Session

end TextTemplate

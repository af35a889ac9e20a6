import TextTemplate.Proofs.Render.Registering
import TextTemplate.Proofs.Session.Rows
import TextTemplate.Stock

/-!
# Families of engines

A session is told here by its history alone, without any numbers or tables: an engine comes from the
one that it was cloned from, up to one that was not cloned; a template is what was last read under
its id, for the family of the engine that read it; and what was registered on the engines of all
families is recorded in order, also where helpers did so in the middle of a rendering. A rendering
finds under a name what was last registered in its family, and nothing else.

## Main definitions

- `Origin`, `History` — where a family comes from, and the steps taken so far
- `History.origin?`, `History.config`, `History.compiled?` — engines and templates by history
- `History.Chronicle` — the record of all registrations
- `Session.Follows` — a session that is as its history says
-/

namespace TextTemplate

/-- Where the engines of a family come from: one of the two that need not be made, or one that was
made new. -/
inductive Origin
  | own
  | shared
  | made (nth : Nat)
  deriving DecidableEq, Repr

/-- The place of a family among all. -/
def Origin.number : Origin → Nat
  | own => 0
  | shared => 1
  | made nth => nth + 2

theorem Origin.number_injective : Function.Injective Origin.number := by
  intro o o' h
  cases o <;> cases o' <;> simp_all [number]

/-- A template that was read: its nodes, and the family of the engine that read it. -/
structure Compiled where
  nodes : List Node
  origin : Origin

/-- The part of a record that is about one family. -/
def Origin.part (o : Origin) (log : List (Origin × Registration)) : List Registration :=
  log.filterMap fun (o', g) => if o' = o then some g else none

/-- The steps taken so far, the last one first. -/
abbrev History := List Step

namespace History

/-- The number of engines that were made new. -/
def made : History → Nat
  | [] => 0
  | .newEngine _ _ :: past => made past + 1
  | _ :: past => made past

/-- Where an engine comes from: a new one from itself, a clone from where the other engine does. -/
def origin? : History → EngineName → Option Origin
  | [], .own => some .own
  | [], .shared => some .shared
  | [], .made _ => none
  | .newEngine id _ :: past, name =>
    if name = .made id then some (.made (made past)) else origin? past name
  | .cloneEngine id engine :: past, name =>
    if name = .made id then (origin? past engine).or (origin? past name) else origin? past name
  | _ :: past, name => origin? past name

/-- The choices of a family: those given for the engine that was made new. -/
def config : History → Origin → Config
  | [], _ => {}
  | .newEngine _ choices :: past, o => if o = .made (made past) then choices else config past o
  | _ :: past, o => config past o

/-- What was last read under an id. A source that is rejected, or given to an engine that there is
not, leaves what was there. -/
def compiled? : History → String → Option Compiled
  | [], _ => none
  | .compile id source engine :: past, other =>
    if other = id then
      match origin? past engine with
      | none => compiled? past other
      | some o =>
        match parseTemplate (config past o).maxBlockDepth source with
        | .ok nodes => some ⟨nodes, o⟩
        | .error _ => compiled? past other
    else compiled? past other
  | _ :: past, other => compiled? past other

/-- The engine of a family: its choices, and what is registered on it. -/
def engine (past : History) (log : List (Origin × Registration)) (o : Origin) : Engine :=
  ⟨past.config o, Registry.record {} (o.part log)⟩

/-- What a step registers, and on which family: what it asks for, if that is not refused, or what
helpers register while it renders a template. -/
def Registers (past : History) (log entries : List (Origin × Registration)) : Step → Prop
  | .render id (.ok value) sink =>
    match past.compiled? id with
    | none => entries = []
    | some t => ∃ inner final,
        (past.engine log t.origin).Records t.nodes value sink inner final ∧ final.jobs = [] ∧
          entries = inner.map (t.origin, ·)
  | step =>
    match step.request? with
    | none => entries = []
    | some (name, request) =>
      match past.origin? name with
      | none => entries = []
      | some o =>
        match request.resolve (fun id => (past.compiled? id).map Compiled.nodes)
          (past.config o) with
        | .error _ => entries = []
        | .ok g => entries = [(o, g)]

/-- The record of all registrations, the last one last. -/
inductive Chronicle : History → List (Origin × Registration) → Prop
  | start : Chronicle [] []
  | step {past : History} {log entries : List (Origin × Registration)} {step : Step}
      (h : Chronicle past log) (hstep : past.Registers log entries step) :
      Chronicle (step :: past) (log ++ entries)

variable {past : History} {log : List (Origin × Registration)}

theorem registers_of_request {step : Step} {name : EngineName} {request : Request}
    (h : step.request? = some (name, request)) (entries : List (Origin × Registration)) :
    past.Registers log entries step ↔
      match past.origin? name with
      | none => entries = []
      | some o =>
        match request.resolve (fun id => (past.compiled? id).map Compiled.nodes)
          (past.config o) with
        | .error _ => entries = []
        | .ok g => entries = [(o, g)] := by
  cases step with
  | newEngine | cloneEngine | compile | render => cases h
  | _ =>
    cases h
    rfl

/-- Every history has a chronicle. -/
theorem exists_chronicle (past : History) : ∃ log, Chronicle past log := by
  induction past with
  | nil => exact ⟨[], .start⟩
  | cons step past ih =>
    obtain ⟨log, hlog⟩ := ih
    suffices hstep : ∃ entries, Registers past log entries step by
      obtain ⟨entries, hentries⟩ := hstep
      exact ⟨log ++ entries, hlog.step hentries⟩
    unfold Registers
    split
    · split
      · exact ⟨_, rfl⟩
      · next id value sink _ t _ =>
        obtain ⟨inner, final, hrecords, hdone⟩ :=
          (engine past log t.origin).exists_records t.nodes value sink
        exact ⟨_, inner, final, hrecords, hdone, rfl⟩
    · split
      · exact ⟨_, rfl⟩
      · split
        · exact ⟨_, rfl⟩
        · split <;> exact ⟨_, rfl⟩

theorem number_lt_of_origin? {name : EngineName} {o : Origin} (h : past.origin? name = some o) :
    o.number < past.made + 2 := by
  induction past generalizing name with
  | nil =>
    cases name <;> simp only [origin?, Option.some.injEq, reduceCtorEq] at h
    all_goals
      subst h
      decide
  | cons step past ih =>
    cases step with
    | newEngine id config =>
      simp only [origin?] at h
      split at h
      · cases h
        simp [Origin.number, made]
      · have hlt := ih h
        simp only [made]
        omega
    | cloneEngine id engine =>
      simp only [origin?] at h
      split at h
      · obtain h | ⟨-, h⟩ := Option.or_eq_some_iff.1 h <;> exact ih h
      · exact ih h
    | _ => exact ih h

theorem number_lt_of_compiled? {id : String} {t : Compiled} (h : past.compiled? id = some t) :
    t.origin.number < past.made + 2 := by
  induction past with
  | nil => cases h
  | cons step past ih =>
    cases step with
    | newEngine id config =>
      have hlt := ih h
      simp only [made]
      omega
    | compile id source engine =>
      simp only [compiled?] at h
      split at h
      · split at h
        · exact ih h
        · next o horigin =>
          split at h
          · cases h
            exact number_lt_of_origin? horigin
          · exact ih h
      · exact ih h
    | _ => exact ih h

/-- Nothing is recorded for a family that there is not. -/
theorem Chronicle.number_lt (h : Chronicle past log) :
    ∀ entry ∈ log, entry.1.number < past.made + 2 := by
  induction h with
  | start => simp
  | @step past log entries step _ hstep ih =>
    have hmade : past.made ≤ made (step :: past) := by
      cases step <;> simp [made]
    refine List.forall_mem_append.2 ⟨fun entry hentry => ?_, fun entry hentry => ?_⟩
    · have hlt := ih entry hentry
      omega
    suffices hlt : entry.1.number < past.made + 2 by omega
    unfold Registers at hstep
    split at hstep
    · split at hstep
      · simp [hstep] at hentry
      · next t hcompiled =>
        obtain ⟨inner, -, -, -, rfl⟩ := hstep
        obtain ⟨g, -, rfl⟩ := List.mem_map.1 hentry
        exact number_lt_of_compiled? hcompiled
    · split at hstep
      · simp [hstep] at hentry
      · split at hstep
        · simp [hstep] at hentry
        · next o horigin =>
          split at hstep
          · simp [hstep] at hentry
          · rw [hstep, List.mem_singleton] at hentry
            subst hentry
            exact number_lt_of_origin? horigin

end History

namespace Origin

variable {o : Origin} {log : List (Origin × Registration)}

theorem part_append (o : Origin) (log more : List (Origin × Registration)) :
    o.part (log ++ more) = o.part log ++ o.part more :=
  List.filterMap_append

theorem part_map_self (o : Origin) (gs : List Registration) : o.part (gs.map (o, ·)) = gs := by
  simp only [part, List.filterMap_map, Function.comp_def, ↓reduceIte, List.filterMap_some]

theorem part_eq_nil (h : ∀ entry ∈ log, entry.1 ≠ o) : o.part log = [] := by
  rw [part, List.filterMap_eq_nil_iff]
  rintro ⟨o', g⟩ hentry
  simp [h _ hentry]

theorem part_map_of_ne {o' : Origin} (h : o' ≠ o) (gs : List Registration) :
    o.part (gs.map (o', ·)) = [] := by
  refine part_eq_nil fun entry hentry => ?_
  obtain ⟨g, -, rfl⟩ := List.mem_map.1 hentry
  exact h

end Origin

-- ════════════════════════════════════════════════════════════════════════
-- Sessions
-- ════════════════════════════════════════════════════════════════════════

namespace Session

open History

/-- A session that is as its history and the record of registrations say. -/
structure Follows (past : History) (log : List (Origin × Registration)) (s : Session) : Prop where
  engines : ∀ name, s.engines.lookup name = (past.origin? name).map Origin.number
  families : s.families.length = past.made + 2
  family : ∀ o : Origin, o.number < past.made + 2 →
    s.families[o.number]? = some (past.engine log o)
  templates : ∀ id, s.templates.lookup id =
    (past.compiled? id).map fun t => ⟨t.nodes, t.origin.number⟩

namespace Follows

variable {past : History} {log : List (Origin × Registration)} {s : Session} {step : Step}

theorem start : Follows [] [] start where
  engines name := by cases name <;> rfl
  families := rfl
  family o ho := by
    cases o with
    | own | shared => rfl
    | made nth =>
      simp only [Origin.number, made] at ho
      omega
  templates id := rfl

theorem family?_eq (h : Follows past log s) (name : EngineName) :
    s.family? name = (past.origin? name).map fun o => (o.number, past.engine log o) := by
  rw [Session.family?_eq, h.engines]
  cases horigin : past.origin? name with
  | none => rfl
  | some o => simp [h.family o (number_lt_of_origin? horigin)]

theorem nodes?_eq (h : Follows past log s) (id : String) :
    s.nodes? id = (past.compiled? id).map Compiled.nodes := by
  rw [nodes?, h.templates]
  cases past.compiled? id <;> rfl

/-- What is registered on a family is found there, and nothing is found elsewhere. -/
theorem setFamily (h : Follows past log s) {o : Origin} (ho : o.number < past.made + 2)
    (gs : List Registration) :
    Follows past (log ++ gs.map (o, ·))
      (s.setFamily o.number
        { past.engine log o with registry := (past.engine log o).registry.record gs }) := by
  refine ⟨h.engines, ?_, fun o' ho' => ?_, h.templates⟩
  · simp only [Session.setFamily, List.length_set, h.families]
  simp only [Session.setFamily]
  by_cases hsame : o' = o
  · subst hsame
    rw [List.getElem?_set_self (by rw [h.families]; exact ho')]
    simp only [engine, Origin.part_append, Origin.part_map_self, Registry.record_append]
  · have hne : o.number ≠ o'.number := fun heq => hsame (Origin.number_injective heq.symm)
    rw [List.getElem?_set_ne hne, h.family o' ho']
    simp only [engine, Origin.part_append, Origin.part_map_of_ne (Ne.symm hsame), List.append_nil]

theorem newEngine (h : Follows past log s)
    (hlog : ∀ entry ∈ log, entry.1.number < past.made + 2) (id : String) (config : Config) :
    Follows (.newEngine id config :: past) log (s.take (.newEngine id config)).2 := by
  refine ⟨fun name => ?_, ?_, fun o ho => ?_, h.templates⟩
  · simp only [take, List.lookup_cons, origin?]
    by_cases hname : name = .made id
    · simp [hname, h.families, Origin.number]
    · simp [hname, beq_false_of_ne hname, h.engines]
  · simp [take, made, h.families]
  simp only [take]
  by_cases hmade : o = .made past.made
  · subst hmade
    have hnumber : (Origin.made past.made).number = s.families.length := h.families.symm
    have hpart : (Origin.made past.made).part log = [] := by
      refine Origin.part_eq_nil fun entry hentry heq => ?_
      have hlt := hlog entry hentry
      rw [heq] at hlt
      exact Nat.lt_irrefl _ hlt
    rw [hnumber, List.getElem?_concat_length]
    simp only [engine, History.config, hpart, if_true]
    rfl
  · have hlt : o.number < past.made + 2 := by
      refine Nat.lt_of_le_of_ne (Nat.le_of_lt_succ ho) fun heq => hmade ?_
      exact Origin.number_injective heq
    rw [List.getElem?_append_left (by rwa [h.families]), h.family o hlt]
    simp only [engine, History.config, if_neg hmade]

theorem cloneEngine (h : Follows past log s) (id : String) (engine : EngineName) :
    Follows (.cloneEngine id engine :: past) log (s.take (.cloneEngine id engine)).2 := by
  simp only [take, onEngine, h.family?_eq]
  cases horigin : past.origin? engine with
  | none =>
    refine ⟨fun name => ?_, h.families, h.family, h.templates⟩
    simp [origin?, horigin, h.engines]
  | some o =>
    refine ⟨fun name => ?_, h.families, h.family, h.templates⟩
    by_cases hname : name = .made id
    · simp [origin?, horigin, hname]
    · simp [origin?, hname, List.lookup_cons, beq_false_of_ne hname, h.engines]

theorem compile (h : Follows past log s) (id source : String) (engine : EngineName) :
    Follows (.compile id source engine :: past) log (s.take (.compile id source engine)).2 := by
  simp only [take, onEngine, h.family?_eq]
  cases horigin : past.origin? engine with
  | none =>
    refine ⟨h.engines, h.families, h.family, fun other => ?_⟩
    simp [compiled?, horigin, h.templates]
  | some o =>
    simp only [Option.map_some, Engine.compile, History.engine]
    cases hparse : parseTemplate (past.config o).maxBlockDepth source with
    | error fault =>
      refine ⟨h.engines, h.families, h.family, fun other => ?_⟩
      simp [compiled?, horigin, hparse, h.templates]
    | ok nodes =>
      refine ⟨h.engines, h.families, h.family, fun other => ?_⟩
      by_cases hother : other = id
      · simp [compiled?, horigin, hparse, hother]
      · simp [compiled?, hother, List.lookup_cons, beq_false_of_ne hother, h.templates]

/-- Steps that neither make nor clone an engine nor read a source change no family but by what is
registered. -/
theorem cons (h : Follows past log s) (hstep : step.request?.isSome ∨ step.template?.isSome) :
    Follows (step :: past) log s := by
  cases step with
  | newEngine | cloneEngine | compile => simp [Step.request?, Step.template?] at hstep
  | _ => exact ⟨h.engines, h.families, h.family, h.templates⟩

theorem request (h : Follows past log s) {name : EngineName} {request : Request}
    (hrequest : step.request? = some (name, request)) {entries : List (Origin × Registration)}
    (hstep : past.Registers log entries step) :
    Follows (step :: past) (log ++ entries) (s.take step).2 := by
  refine Follows.cons ?_ (.inl (by simp [hrequest]))
  rw [registers_of_request hrequest] at hstep
  rw [take_of_request hrequest, onEngine, h.family?_eq]
  have hnodes : s.nodes? = fun id => (past.compiled? id).map Compiled.nodes :=
    funext h.nodes?_eq
  cases horigin : past.origin? name with
  | none =>
    rw [horigin] at hstep
    simpa [hstep] using h
  | some o =>
    have hconfig : (past.engine log o).config = past.config o := rfl
    simp only [horigin, Option.map_some, hnodes, hconfig] at hstep ⊢
    cases hresolve : request.resolve (fun id => (past.compiled? id).map Compiled.nodes)
        (past.config o) with
    | error answer =>
      rw [hresolve] at hstep
      simpa [hstep] using h
    | ok g =>
      rw [hresolve] at hstep
      rw [hstep]
      exact h.setFamily (number_lt_of_origin? horigin) [g]

theorem render (h : Follows past log s) {id : String} {data : Except String Value} {sink : Sink}
    {entries : List (Origin × Registration)}
    (hstep : past.Registers log entries (.render id data sink)) :
    Follows (.render id data sink :: past) (log ++ entries)
      (s.take (.render id data sink)).2 := by
  refine Follows.cons ?_ (.inr rfl)
  simp only [take, h.templates]
  cases data with
  | error message =>
    rw [show entries = [] from hstep]
    cases hcompiled : past.compiled? id with
    | none => simpa using h
    | some t =>
      have hlt := number_lt_of_compiled? hcompiled
      simp only [Option.map_some, h.family _ hlt]
      exact h.setFamily hlt []
  | ok value =>
    simp only [Registers] at hstep
    cases hcompiled : past.compiled? id with
    | none =>
      rw [hcompiled] at hstep
      simpa [hstep] using h
    | some t =>
      have hlt := number_lt_of_compiled? hcompiled
      rw [hcompiled] at hstep
      obtain ⟨inner, final, hrecords, hdone, rfl⟩ := hstep
      simp only [Option.map_some, h.family _ hlt, Engine.render,
        Engine.engine_renderValue hrecords hdone]
      exact h.setFamily hlt inner

/-- A step keeps the session as its history says. -/
theorem take (h : Follows past log s) (hlog : ∀ entry ∈ log, entry.1.number < past.made + 2)
    {entries : List (Origin × Registration)} (hstep : past.Registers log entries step) :
    Follows (step :: past) (log ++ entries) (s.take step).2 := by
  cases step with
  | newEngine id config =>
    rw [show entries = [] from hstep, List.append_nil]
    exact h.newEngine hlog id config
  | cloneEngine id engine =>
    rw [show entries = [] from hstep, List.append_nil]
    exact h.cloneEngine id engine
  | compile id source engine =>
    rw [show entries = [] from hstep, List.append_nil]
    exact h.compile id source engine
  | addHelper | addBlockHelper | addPartial | addPartialSource => exact h.request rfl hstep
  | render id data sink => exact h.render hstep

end Follows

/-- Every session is as its history says. -/
theorem follows_after {past : History} {log : List (Origin × Registration)}
    (h : past.Chronicle log) : Follows past log (start.after past.reverse) := by
  induction h with
  | start => exact .start
  | @step past log entries step hpast hstep ih =>
    rw [List.reverse_cons, after_append]
    exact ih.take hpast.number_lt hstep

-- ════════════════════════════════════════════════════════════════════════
-- Renderings
-- ════════════════════════════════════════════════════════════════════════

/-- A point of a rendering that finds what was last registered in a family, escapes as the family
does, and includes partials as far as the limit of the family goes, wherever their nodes come
from. -/
structure BoundTo (past : History) (log : List (Origin × Registration)) (o : Origin)
    (inner : List Registration) (point : Execution) : Prop where
  found : ∀ name kind,
    point.registry.find? name kind = Registration.last? (o.part log ++ inner) name kind
  escape : point.outputs.main.escape = (past.config o).escapeHtml
  inclusion : ∀ name context? scope jobs expand, point.halt? = none →
    point.jobs = .node (.partialRef name context?) scope :: jobs →
    point.next ⟨past.config o, expand⟩ = some
      (match Registration.last? (o.part log ++ inner) name .partials with
      | none => { point with jobs, halt? := some (.fault (.missingPartial name)) }
      | some body =>
        if point.included.length < (past.config o).maxPartialDepth then
          { point with jobs := .nodes body (scope.ofPartial context?) :: .leave name :: jobs }
        else
          { point with
            jobs, halt? := some (.fault (.partialDepth name (past.config o).maxPartialDepth)) })

variable {past : History} {log : List (Origin × Registration)}

theorem boundTo_of_passes {o : Origin} {nodes : List Node} {value : Value} {sink : Sink}
    {inner : List Registration} {point : Execution}
    (h : (past.engine log o).Passes nodes value sink inner point) :
    BoundTo past log o inner point := by
  have hfound : ∀ name kind, point.registry.find? name kind =
      Registration.last? (o.part log ++ inner) name kind := by
    intro name kind
    have hregistry : point.registry = Registry.record {} (o.part log ++ inner) := by
      rw [h.registry, Registry.record_append]
      rfl
    rw [hregistry, Registry.find?_record, Registry.find?_empty, Option.or_none]
  refine ⟨hfound, h.escape rfl, fun name context? scope jobs expand hruns hjobs => ?_⟩
  have hpartial := hfound name .partials
  obtain ⟨jobs', outputs, registry, halt?⟩ := point
  simp only at hruns hjobs
  subst hruns hjobs
  have hpartial : registry.partial? name =
      Registration.last? (o.part log ++ inner) name .partials := hpartial
  simp only [Execution.next, Job.move, Node.move, hpartial]
  cases Registration.last? (o.part log ++ inner) name .partials with
  | none => rfl
  | some body =>
    simp only
    split <;> rfl

/-- A template is rendered with the choices of its family and with what was last registered under
each name on any engine of that family, and of no other; this holds at every point of the rendering
and of the partials that it includes, whatever engine these were read by. -/
theorem names_bound_to_family (past : History) (log : List (Origin × Registration))
    (h : past.Chronicle log) (id : String) (t : Compiled) (ht : past.compiled? id = some t)
    (value : Value) (sink : Sink) :
    ((start.after past.reverse).take (.render id (.ok value) sink)).1 =
        .rendered ((past.engine log t.origin).renderValue t.nodes value sink).outcome
          ((past.engine log t.origin).renderValue t.nodes value sink).sink.text ∧
      (∀ reached, Execution.Leads (past.engine log t.origin).setting
          ((past.engine log t.origin).start t.nodes value sink) reached →
        ∃ inner, (past.engine log t.origin).Passes t.nodes value sink inner reached) ∧
      (∀ inner point, (past.engine log t.origin).Passes t.nodes value sink inner point →
        BoundTo past log t.origin inner point) ∧
      ∀ o other, o ≠ t.origin →
        (((start.after past.reverse).setFamily o.number other).take
            (.render id (.ok value) sink)).1 =
          ((start.after past.reverse).take (.render id (.ok value) sink)).1 := by
  have hfollows := follows_after h
  have hlookup : (start.after past.reverse).templates.lookup id =
      some ⟨t.nodes, t.origin.number⟩ := by
    rw [hfollows.templates, ht]
    rfl
  have hfamily := hfollows.family t.origin (number_lt_of_compiled? ht)
  refine ⟨?_, fun reached hreached => Engine.exists_passes hreached,
    fun inner point hpoint => boundTo_of_passes hpoint, fun o other hne => ?_⟩
  · simp only [take, hlookup, hfamily, Engine.render]
  · have hnumber : o.number ≠ t.origin.number := fun heq => hne (Origin.number_injective heq)
    have hother : ((start.after past.reverse).setFamily o.number other).families[t.origin.number]? =
        some (past.engine log t.origin) := by
      simp only [setFamily, List.getElem?_set_ne hnumber, hfamily]
    simp only [take, hlookup, hfamily, hother, show
      ((start.after past.reverse).setFamily o.number other).templates.lookup id =
        some ⟨t.nodes, t.origin.number⟩ from hlookup]

/-- A partial that one engine reads and another one includes, with a helper of one name on both, on
the latter by way of a clone. -/
def migrantSteps : List Step :=
  [.newEngine "first" {}, .newEngine "second" { escapeHtml := false },
    .cloneEngine "clone" (.made "second"),
    .compile "part" "\x7b\x7bx\x7d\x7d\x7b\x7bname 1\x7d\x7d" (.made "first"),
    .addPartial "part" "part" (.made "second"),
    .compile "page" "\x7b\x7b> part\x7d\x7d" (.made "second"),
    .addHelper "name" (Stock.const (.text "second")) (.made "clone"),
    .addHelper "name" (Stock.const (.text "first")) (.made "first"),
    .addPartialSource "name" "no helper" (.made "second")]

theorem names_bound_to_family_migrant :
    (start.run (migrantSteps ++ [.render "page" (.ok (.keyed [("x", .text "<")])) {}])).map
        Answer.text? =
      [none, none, none, none, none, none, none, none, none, some "<second"] ∧
    ∃ log t, History.Chronicle migrantSteps.reverse log ∧
      History.compiled? migrantSteps.reverse "page" = some t ∧ t.origin = .made 1 ∧
      ∀ inner point, (History.engine migrantSteps.reverse log t.origin).Passes t.nodes
        (.keyed [("x", .text "<")]) {} inner point →
          BoundTo migrantSteps.reverse log t.origin inner point := by
  obtain ⟨log, hlog⟩ := History.exists_chronicle migrantSteps.reverse
  have horigin : (History.compiled? migrantSteps.reverse "page").map Compiled.origin =
      some (.made 1) := by decide +kernel
  obtain ⟨t, ht, ho⟩ := Option.map_eq_some_iff.1 horigin
  exact ⟨by decide +kernel, log, t, hlog, ht, ho,
    (names_bound_to_family migrantSteps.reverse log hlog "page" t ht
      (.keyed [("x", .text "<")]) {}).2.2.1⟩

end Session

end TextTemplate

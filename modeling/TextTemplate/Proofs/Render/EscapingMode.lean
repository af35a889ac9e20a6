import TextTemplate.Proofs.Render.RaisedLimit
import TextTemplate.Proofs.Render.Scopes

/-!
# Escaping on and off

Whether an engine escapes decides nothing but how the values of double tags are written. So a
rendering in which no helper runs takes the same steps with escaping on and off, and writes its
chunks one for one: the texts of the template and the values of triple tags are the same in both,
and a value of a double tag is escaped in one, once, and as it is in the other.

## Main definitions

- `Engine.withEscaping` — the engine that escapes, or does not
- `Node.WritesBoth` — the chunks that a node writes with escaping on and off
- `Execution.Alongside` — executions that are about to do the same, and have written the same
-/

namespace TextTemplate

open Text

/-- The engine that escapes, or does not. -/
def Engine.withEscaping (e : Engine) (escape : Bool) : Engine :=
  { e with config := { e.config with escapeHtml := escape } }

/-- The chunks that a node writes in a scope, first with escaping on and then with escaping off, if
it writes something and runs no helper. -/
inductive Node.WritesBoth (scope : Scope) : Node → String → String → Prop
  | text (s : String) : WritesBoth scope (.text s) s s
  | triplePath {p : Path} {v : Value} (h : scope.resolve p = some v) :
      WritesBoth scope (.path p false) v.display v.display
  | tripleLiteral (v : Value) : WritesBoth scope (.literal v false) v.display v.display
  | doublePath {p : Path} {v : Value} (h : scope.resolve p = some v) :
      WritesBoth scope (.path p true) (escapeHtml v.display) v.display
  | doubleLiteral (v : Value) : WritesBoth scope (.literal v true) (escapeHtml v.display) v.display

-- ════════════════════════════════════════════════════════════════════════
-- Moves
-- ════════════════════════════════════════════════════════════════════════

/-- A move after which nothing is rendered apart that was not before. -/
def Move.StaysDirect : Move → Prop
  | apart _ _ | collect _ | expand _ _ _ => False
  | go _ | write _ _ _ | register _ _ | fail _ => True

namespace Job

variable {config : Config} {registry : Registry} {depth : Nat} {job : Job}

theorem staysDirect_move (hscript : ∀ role s, job ≠ .script role s) (hwaits : ¬ job.IsWaiting) :
    (job.move config registry depth).StaysDirect := by
  obtain hplain | hspecial := isPlain_move_or_special config registry depth job
  · cases hmove : job.move config registry depth with
    | apart | collect | expand =>
      rw [hmove] at hplain
      exact hplain.elim
    | _ => trivial
  · cases hspecial with
    | inclusion name context? scope =>
      obtain ⟨_, _, _, hmove⟩ | ⟨_, _, _, hmove⟩ | ⟨_, hmove⟩ :=
        move_inclusion config registry depth name context? scope
      all_goals
        rw [hmove]
        trivial
    | collecting => exact absurd trivial hwaits
    | _ => exact absurd rfl (hscript _ _)

/-- What is written where no helper runs is written by a node. -/
theorem writesBoth_of_move {w : Written} {first : List Job}
    {refused? : Option (RenderError → List Job)} (hscript : ∀ role s, job ≠ .script role s)
    (h : job.move config registry depth = .write w first refused?) :
    ∃ n scope, job = .node n scope ∧ n.WritesBoth scope (w.chunk true) (w.chunk false) := by
  cases job with
  | node n scope =>
    refine ⟨n, scope, rfl, ?_⟩
    cases n with
    | text s =>
      cases h
      exact .text s
    | path p escaped =>
      simp only [move, Node.move] at h
      split at h
      · next v hv =>
        cases h
        cases escaped with
        | true => exact .doublePath hv
        | false => exact .triplePath hv
      · cases h
    | literal v escaped =>
      cases h
      cases escaped with
      | true => exact .doubleLiteral v
      | false => exact .tripleLiteral v
    | call name arguments escaped =>
      simp only [move, Node.move] at h
      split at h <;> cases h
    | block kind name consequent alternate? =>
      have hstep := kind.step_move registry name consequent (alternate?.getD []) alternate?.isSome
        scope
      change kind.move registry name consequent (alternate?.getD []) alternate?.isSome scope = _ at h
      rw [h] at hstep
      cases hstep
    | partialRef name context? =>
      obtain ⟨_, _, _, hmove⟩ | ⟨_, _, _, hmove⟩ | ⟨_, hmove⟩ :=
        move_inclusion config registry depth name context? scope
      all_goals
        rw [hmove] at h
        cases h
  | script role s => exact absurd rfl (hscript role s)
  | nodes ns scope => cases ns <;> cases h
  | each body scopes => cases scopes <;> cases h
  | leave | resume | collect => cases h

end Job

-- ════════════════════════════════════════════════════════════════════════
-- Two executions
-- ════════════════════════════════════════════════════════════════════════

/-- What is written directly to a sink that refuses nothing is written. -/
theorem Outputs.put_of_limit {o : Outputs} (hdirect : o.apart = [])
    (hlimit : o.main.sink.limit = none) (w : Written) :
    o.put w = .ok { o with
      main := { o.main with sink := o.main.sink.append [w.chunk o.main.escape] }
      written := o.written ++ [w] } := by
  rw [put_of_apart_eq_nil hdirect, if_pos (Sink.accepts_of_limit_eq_none hlimit _)]

namespace Execution

variable {setting setting' : Setting} {e e' mid : Execution}

/-- Executions that are about to do the same and have written the same, both directly to sinks that
refuse nothing. -/
structure Alongside (e e' : Execution) : Prop where
  jobs : e'.jobs = e.jobs
  registry : e'.registry = e.registry
  halt? : e'.halt? = e.halt?
  written : e'.outputs.written = e.outputs.written
  direct : e.outputs.apart = [] ∧ e'.outputs.apart = []
  limit : e.outputs.main.sink.limit = none ∧ e'.outputs.main.sink.limit = none

namespace Alongside

variable (setting setting') in
theorem perform (h : e.Alongside e') (jobs : List Job) {move : Move} (hmove : move.StaysDirect) :
    (e.perform setting jobs move).Alongside (e'.perform setting' jobs move) := by
  obtain ⟨_, hregistry, hhalt, hwritten, hdirect, hlimit⟩ := h
  cases move with
  | go first => exact ⟨rfl, hregistry, hhalt, hwritten, hdirect, hlimit⟩
  | write w first refused? =>
    simp only [Execution.perform, Outputs.put_of_limit hdirect.1 hlimit.1,
      Outputs.put_of_limit hdirect.2 hlimit.2]
    exact ⟨rfl, hregistry, hhalt, congrArg (· ++ [w]) hwritten, hdirect, hlimit⟩
  | register change first =>
    exact ⟨rfl, congrArg change hregistry, hhalt, hwritten, hdirect, hlimit⟩
  | fail fault => exact ⟨rfl, hregistry, rfl, hwritten, hdirect, hlimit⟩
  | apart | collect | expand => exact hmove.elim

theorem unwind (h : e.Alongside e') (jobs : List Job) (halt : Halt) {job : Job}
    (hwaits : ¬ job.IsWaiting) : (e.unwind jobs halt job).Alongside (e'.unwind jobs halt job) := by
  cases job with
  | resume | collect => exact absurd trivial hwaits
  | _ => cases halt <;> exact ⟨rfl, h.registry, h.halt?, h.written, h.direct, h.limit⟩

/-- Where no helper runs and the limits of partials are the same, so is the step. -/
theorem next (h : e.Alongside e')
    (hlimit : setting'.config.maxPartialDepth = setting.config.maxPartialDepth)
    (hscript : ∀ role s, Job.script role s ∉ e.jobs) (hwaits : ∀ job ∈ e.jobs, ¬ job.IsWaiting)
    (hnext : e.next setting = some mid) :
    ∃ mid', e'.next setting' = some mid' ∧ mid.Alongside mid' := by
  obtain ⟨job, jobs, heq, hcases⟩ := next_cases hnext
  have hjobs : e'.jobs = job :: jobs := h.jobs.trans heq
  have hincluded : e'.included = e.included := congrArg (List.filterMap Job.partial?) h.jobs
  rw [heq] at hscript hwaits
  have hjob : ∀ role s, job ≠ .script role s := by
    rintro role s rfl
    exact hscript role s List.mem_cons_self
  have hwait := hwaits job List.mem_cons_self
  obtain ⟨hruns, rfl⟩ | ⟨halt, hhalt, rfl⟩ := hcases
  · refine ⟨_, ?_, h.perform setting setting' jobs (Job.staysDirect_move hjob hwait)⟩
    simp only [Execution.next, hjobs, h.halt?, hruns, h.registry, hincluded,
      Job.move_congr hjob fun _ _ _ _ _ => .inl hlimit]
  · refine ⟨_, ?_, h.unwind jobs halt hwait⟩
    simp only [Execution.next, hjobs, h.halt?, hhalt]

theorem outcome (h : e.Alongside e') : e'.outcome = e.outcome := by
  simp only [Execution.outcome, h.halt?]

end Alongside

end Execution

-- ════════════════════════════════════════════════════════════════════════
-- Renderings
-- ════════════════════════════════════════════════════════════════════════

/-- A row of a table, which shows a name escaped and as it is. -/
def badgeNodes : List Node :=
  [.text "<td title=\"", .path ⟨[.name "name"]⟩ true, .text "\">", .path ⟨[.name "name"]⟩ false,
    .literal (.text " & co") true, .text "</td>"]

/-- Rows for people, then a partial that is not there. -/
def badgeTable : List Node :=
  [.block (.each (.path ⟨[.name "people"]⟩)) "each" [.partialRef "badge" none] none,
    .partialRef "footer" none]

/-- An engine with the row for people alone. -/
def badgeEngine : Engine :=
  ⟨{}, Registry.addPartial {} "badge" badgeNodes⟩

/-- People whose names are full of markup. -/
def badgePeople : Value :=
  .keyed [("people", .sequence [.keyed [("name", .text "<b>R&B</b>")],
    .keyed [("name", .text "&amp;")]])]

namespace Engine

open Execution

variable {e : Engine} {nodes : List Node} {data : Value} {sink sink' : Sink} {reached : Execution}

/-- A rendering in which no helper runs goes the same way whether or not the engine escapes. -/
theorem exists_alongside (escape : Bool) (hquiet : e.RunsNoHelper nodes data sink)
    (hsink : sink.limit = none) (hsink' : sink'.limit = none)
    (h : Leads e.setting (e.start nodes data sink) reached) :
    (∃ reached', Leads (e.withEscaping escape).setting
        ((e.withEscaping escape).start nodes data sink') reached' ∧ reached.Alongside reached') ∧
      ∀ job ∈ reached.jobs, ¬ job.IsWaiting := by
  induction h with
  | refl =>
    refine ⟨⟨_, .refl, rfl, rfl, rfl, rfl, ⟨rfl, rfl⟩, hsink, hsink'⟩, ?_⟩
    intro job hjob
    rw [List.mem_singleton.1 hjob]
    exact id
  | @tail mid after hleads hnext ih =>
    obtain ⟨⟨mid', hleads', halong⟩, hwaits⟩ := ih
    have hscript := hquiet mid hleads
    have hlimit : (e.withEscaping escape).setting.config.maxPartialDepth =
        e.setting.config.maxPartialDepth := rfl
    obtain ⟨after', hnext', halong'⟩ := halong.next hlimit hscript hwaits hnext
    exact ⟨⟨after', hleads'.tail hnext', halong'⟩, not_isWaiting_next hscript hwaits hnext⟩

/-- What such a rendering comes to is what it comes to whether or not the engine escapes, but for
the chunks that the same things are written as. -/
theorem renderValue_withEscaping {final : Execution} (escape : Bool)
    (hquiet : e.RunsNoHelper nodes data sink) (hsink : sink.limit = none)
    (hsink' : sink'.limit = none) (h : e.Renders nodes data sink final) :
    ((e.withEscaping escape).renderValue nodes data sink').outcome = final.outcome ∧
      ((e.withEscaping escape).renderValue nodes data sink').sink =
        sink'.append (final.outputs.written.map (Written.chunk escape)) := by
  obtain ⟨⟨final', hleads', halong⟩, -⟩ := exists_alongside escape hquiet hsink hsink' h.leads
  have hrenders : (e.withEscaping escape).Renders nodes data sink' final' :=
    ⟨hleads', halong.jobs.trans h.done⟩
  rw [hrenders.renderValue_eq]
  refine ⟨halong.outcome, ?_⟩
  simp only [main_of_leads hleads', halong.written]
  rfl

/-- Each of the things that are written in such a rendering is written by a node that it comes to
when those before it have been written. -/
theorem exists_writesBoth {i : Nat} {w : Written} (hquiet : e.RunsNoHelper nodes data sink)
    (h : Leads e.setting (e.start nodes data sink) reached)
    (hw : reached.outputs.written[i]? = some w) :
    ∃ mid n scope, Leads e.setting (e.start nodes data sink) mid ∧
      mid.outputs.written.length = i ∧ mid.rendered? = some (n, scope) ∧
      n.WritesBoth scope (w.chunk true) (w.chunk false) := by
  obtain ⟨hi, hwi⟩ := List.getElem?_eq_some_iff.1 hw
  have hwritten : reached.outputs.written =
      reached.outputs.written.take i ++ w :: reached.outputs.written.drop (i + 1) := by
    rw [← hwi, List.getElem_cons_drop, List.take_append_drop]
  obtain ⟨mid, hmid, hbefore, hruns, -, job, jobs, first, refused?, hjobs, hmove⟩ :=
    h.exists_offers rfl hwritten
  have hjob : ∀ role s, job ≠ .script role s := by
    rintro role s rfl
    exact hquiet mid hmid role s (hjobs ▸ List.mem_cons_self)
  obtain ⟨n, scope, rfl, hboth⟩ := Job.writesBoth_of_move hjob hmove
  refine ⟨mid, n, scope, hmid, ?_, by simp only [rendered?, hjobs, hruns], hboth⟩
  rw [hbefore, List.length_take_of_le (Nat.le_of_lt hi)]

/-- Where no helper runs, escaping acts on the values of double tags and on nothing else: with
escaping on and off a rendering ends alike, and writes equally many chunks, each of which is written
by the node that it comes to when those before it have been written. -/
theorem escaping_acts_on_double_tags (e : Engine) (nodes : List Node) (data : Value)
    (sink sink' : Sink) (hsink : sink.limit = none) (hsink' : sink'.limit = none)
    (hquiet : e.RunsNoHelper nodes data sink) :
    ((e.withEscaping true).renderValue nodes data sink).outcome =
        ((e.withEscaping false).renderValue nodes data sink').outcome ∧
      ∃ on off : List String,
        ((e.withEscaping true).renderValue nodes data sink).sink = sink.append on ∧
        ((e.withEscaping false).renderValue nodes data sink').sink = sink'.append off ∧
        on.length = off.length ∧
        ∀ (i : Nat) (chunk chunk' : String), on[i]? = some chunk → off[i]? = some chunk' →
          ∃ mid n scope, Leads e.setting (e.start nodes data sink) mid ∧
            mid.outputs.written.length = i ∧ mid.rendered? = some (n, scope) ∧
            n.WritesBoth scope chunk chunk' := by
  obtain ⟨final, hfinal⟩ := e.exists_renders nodes data sink
  obtain ⟨honOutcome, honSink⟩ := renderValue_withEscaping true hquiet hsink hsink hfinal
  obtain ⟨hoffOutcome, hoffSink⟩ := renderValue_withEscaping false hquiet hsink hsink' hfinal
  refine ⟨honOutcome.trans hoffOutcome.symm, _, _, honSink, hoffSink,
    (List.length_map _).trans (List.length_map _).symm, fun i chunk chunk' hchunk hchunk' => ?_⟩
  -- Both chunks are those of the thing that is written at this place.
  rw [List.getElem?_map, Option.map_eq_some_iff] at hchunk hchunk'
  obtain ⟨w, hw, rfl⟩ := hchunk
  obtain ⟨w', hw', rfl⟩ := hchunk'
  cases hw.symm.trans hw'
  exact exists_writesBoth hquiet hfinal.leads hw

theorem escaping_acts_on_double_tags_badges :
    badgeEngine.RunsNoHelper badgeTable badgePeople {} ∧
      ((badgeEngine.withEscaping true).renderValue badgeTable badgePeople {}).outcome =
        ((badgeEngine.withEscaping false).renderValue badgeTable badgePeople {}).outcome ∧
      ∃ on off : List String,
        ((badgeEngine.withEscaping true).renderValue badgeTable badgePeople {}).sink =
          Sink.append {} on ∧
        ((badgeEngine.withEscaping false).renderValue badgeTable badgePeople {}).sink =
          Sink.append {} off ∧
        on.length = off.length ∧
        ∀ (i : Nat) (chunk chunk' : String), on[i]? = some chunk → off[i]? = some chunk' →
          ∃ mid n scope,
            Leads badgeEngine.setting (badgeEngine.start badgeTable badgePeople {}) mid ∧
            mid.outputs.written.length = i ∧ mid.rendered? = some (n, scope) ∧
            n.WritesBoth scope chunk chunk' := by
  have hquiet : badgeEngine.RunsNoHelper badgeTable badgePeople {} := by
    refine runsNoHelper_of_not_answers ?_ _ _ _
    rintro answer (⟨hlookup, _, _⟩ | ⟨hlookup, _, _, _⟩)
    · cases hlookup
    · cases hlookup
  exact ⟨hquiet,
    escaping_acts_on_double_tags badgeEngine badgeTable badgePeople {} {} rfl rfl hquiet⟩

end Engine

end TextTemplate

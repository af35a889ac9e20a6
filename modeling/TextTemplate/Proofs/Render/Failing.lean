import TextTemplate.Proofs.Render.Reach

/-!
# Faults that are passed on

Where no helper that waits for a branch keeps a fault to itself, the fault takes away all jobs, one
by one, and what was written and registered before it stays as it is.

## Main definitions

- `Script.EndsOnFault` — a script that ends with the first fault it is told of
- `Job.PassesOn` — a job that passes a fault on
- `Execution.Failing` — an execution that fails with a fault
-/

namespace TextTemplate

/-- A script that ends with the first fault it is told of, and registers and renders nothing of its
own. -/
inductive Script.EndsOnFault : Script → Prop
  | reply (r : Reply) : EndsOnFault (.reply r)
  | fail (fault : RenderError) : EndsOnFault (.fail fault)
  | write {piece : Piece} {next : Option RenderError → Script} (hnext : EndsOnFault (next none))
      (hfault : ∀ fault, next (some fault) = .fail fault) : EndsOnFault (.write piece next)
  | render {branch : Branch} {scope : Scope} {next : Option RenderError → Script}
      (hnext : EndsOnFault (next none)) (hfault : ∀ fault, next (some fault) = .fail fault) :
      EndsOnFault (.render branch scope next)
  | capture {branch : Branch} {scope : Scope} {escape : Bool} {next : Captured → Script}
      (hnext : ∀ text, EndsOnFault (next ⟨text, none⟩))
      (hfault : ∀ text fault, next ⟨text, some fault⟩ = .fail fault) :
      EndsOnFault (.capture branch scope escape next)

namespace Script.EndsOnFault

variable {s s' : Script}

theorem put {piece : Piece} (h : s.EndsOnFault) : (Script.put piece s).EndsOnFault :=
  .write h fun _ => rfl

theorem putBranch {branch : Branch} {scope : Scope} (h : s.EndsOnFault) :
    (Script.putBranch branch scope s).EndsOnFault :=
  .render h fun _ => rfl

theorem follows {faults : RenderError → Prop} (h : s.EndsOnFault) (hfollows : s.Follows faults s') :
    s'.EndsOnFault := by
  cases h with
  | reply r => cases hfollows
  | fail fault => cases hfollows
  | write hnext hfault =>
    cases hfollows with
    | write => exact hnext
    | refusal => exact hfault .write ▸ .fail .write
  | render hnext hfault =>
    cases hfollows with
    | render => exact hnext
    | renderFault => exact hfault _ ▸ .fail _
  | capture hnext hfault =>
    cases hfollows with
    | capture text => exact hnext text
    | captureFault text => exact hfault text _ ▸ .fail _

end Script.EndsOnFault

/-- Where all helpers answer with scripts that end on faults, no other scripts may run. -/
theorem Registry.endsOnFault_of_mayRun {r : Registry}
    (h : ∀ answer, r.Answers answer → answer.EndsOnFault) {s : Script} (hs : r.MayRun s) :
    s.EndsOnFault := by
  obtain ⟨answer, hanswer, hcomes⟩ := hs
  induction hcomes with
  | refl => exact h answer hanswer
  | tail _ hfollows ih => exact ih.follows hfollows

/-- A job that passes a fault on: a helper that waits for a branch fails with the same fault. -/
def Job.PassesOn (fault : RenderError) : Job → Prop
  | resume _ next => next (some fault) = .fail fault
  | collect _ next => ∀ text, next ⟨text, some fault⟩ = .fail fault
  | _ => True

namespace Execution

/-- An execution that has halted with a fault or is about to, and that nobody keeps from it. -/
inductive Failing (fault : RenderError) : Execution → Prop
  | halted {jobs : List Job} {outputs : Outputs} {registry : Registry}
      (h : ∀ job ∈ jobs, job.PassesOn fault) :
      Failing fault ⟨jobs, outputs, registry, some (.fault fault)⟩
  | script {role : Role} {jobs : List Job} {outputs : Outputs} {registry : Registry}
      (h : ∀ job ∈ jobs, job.PassesOn fault) :
      Failing fault ⟨.script role (.fail fault) :: jobs, outputs, registry, none⟩

/-- Outputs and a registry that are those of an execution, apart from what is rendered apart. -/
structure Leaves (e e' : Execution) : Prop where
  main : e'.outputs.main = e.outputs.main
  written : e'.outputs.written = e.outputs.written
  registry : e'.registry = e.registry

variable {setting : Setting} {fault : RenderError} {e e' e'' : Execution}

theorem Leaves.refl (e : Execution) : e.Leaves e :=
  ⟨rfl, rfl, rfl⟩

theorem Leaves.trans (h : e.Leaves e') (h' : e'.Leaves e'') : e.Leaves e'' :=
  ⟨h'.main.trans h.main, h'.written.trans h.written, h'.registry.trans h.registry⟩

theorem Failing.next (h : e.Failing fault) (hnext : e.next setting = some e') :
    e'.Failing fault ∧ e.Leaves e' := by
  cases h with
  | script h =>
    cases hnext
    exact ⟨.halted h, rfl, rfl, rfl⟩
  | @halted jobs outputs registry h =>
    cases jobs with
    | nil => cases hnext
    | cons job jobs =>
      obtain ⟨hjob, hjobs⟩ := List.forall_mem_cons.1 h
      cases hnext
      -- A helper that waits is resumed with the fault, and all that it does is to fail with it.
      cases job with
      | resume role next =>
        simp only [unwind, show next (some fault) = .fail fault from hjob]
        exact ⟨.script hjobs, rfl, rfl, rfl⟩
      | collect role next =>
        simp only [unwind, show next ⟨_, some fault⟩ = .fail fault from hjob _]
        exact ⟨.script hjobs, rfl, rfl, rfl⟩
      | _ => exact ⟨.halted hjobs, rfl, rfl, rfl⟩

/-- A fault that is passed on stays the same, and so does what was written and registered. -/
theorem Failing.leads (h : e.Failing fault) (hleads : Leads setting e e') :
    e'.Failing fault ∧ e.Leaves e' := by
  refine hleads.keeps (P := fun e' => e'.Failing fault ∧ e.Leaves e') ?_ ⟨h, .refl e⟩
  rintro e₁ e₂ ⟨hfailing, hleaves⟩ hnext
  obtain ⟨hfailing', hleaves'⟩ := hfailing.next hnext
  exact ⟨hfailing', hleaves.trans hleaves'⟩

/-- An execution that fails with a fault and comes to its end has halted with it. -/
theorem Failing.outcome (h : e.Failing fault) (hjobs : e.jobs = []) :
    e.outcome = .error (.fault fault) := by
  cases h with
  | halted => rfl
  | script => cases hjobs

end Execution

/-- A rendering that comes to fail ends with the fault, and leaves what was there. -/
theorem Engine.Renders.of_failing {e : Engine} {nodes : List Node} {data : Value} {sink : Sink}
    {final reached failing : Execution} {fault : RenderError}
    (hfinal : e.Renders nodes data sink final)
    (hreached : Execution.Leads e.setting (e.start nodes data sink) reached)
    (hnext : reached.next e.setting = some failing) (hfailing : failing.Failing fault) :
    final.outcome = .error (.fault fault) ∧ failing.Leaves final := by
  obtain ⟨hfailing', hleaves⟩ := hfailing.leads (hfinal.of_leads (hreached.tail hnext))
  exact ⟨hfailing'.outcome hfinal.done, hleaves⟩

end TextTemplate

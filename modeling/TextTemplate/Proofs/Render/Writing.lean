import TextTemplate.Proofs.Render.Moves

/-!
# What the sink of a template has taken

The sink of a template only ever gets longer, by one chunk for each thing that is written. Rendering
apart goes on beside it, and for every output that is rendered apart there is a helper among the
jobs that waits for it; so where none waits, everything is written to the sink itself.

## Main definitions

- `Outputs.Extends` — outputs to whose template more has been written
- `Execution.Offers` — an execution that is about to write to the sink of the template
- `Execution.Balanced` — as many outputs apart as helpers that wait for them
-/

namespace TextTemplate

/-- Outputs to whose template more has been written, one chunk for each thing. -/
def Outputs.Extends (o o' : Outputs) : Prop :=
  ∃ more, o'.written = o.written ++ more ∧
    o'.main = { o.main with sink := o.main.sink.append (more.map (Written.chunk o.main.escape)) }

namespace Outputs.Extends

variable {o o' o'' : Outputs}

theorem refl (o : Outputs) : o.Extends o :=
  ⟨[], by simp, by simp⟩

/-- Outputs of which only those apart differ. -/
theorem of_eq (hwritten : o'.written = o.written) (hmain : o'.main = o.main) : o.Extends o' :=
  ⟨[], by simp [hwritten], by simp [hmain]⟩

theorem trans (h : o.Extends o') (h' : o'.Extends o'') : o.Extends o'' := by
  obtain ⟨more, hwritten, hmain⟩ := h
  obtain ⟨more', hwritten', hmain'⟩ := h'
  refine ⟨more ++ more', ?_, ?_⟩
  · rw [hwritten', hwritten, List.append_assoc]
  · rw [hmain', hmain]
    simp only [Sink.append_append, List.map_append]

theorem put {w : Written} (h : o.put w = .ok o') : o.Extends o' := by
  obtain ⟨-, rfl⟩ | ⟨inner, apart, -, rfl⟩ := ok_of_put h
  · exact ⟨[w], rfl, rfl⟩
  · exact .of_eq rfl rfl

end Outputs.Extends

namespace Execution

variable {setting : Setting} {e e' : Execution}

theorem extends_perform (jobs : List Job) (move : Move) :
    e.outputs.Extends (e.perform setting jobs move).outputs := by
  cases move with
  | write w first refused? =>
    simp only [perform]
    split
    · next outputs hput => exact .put hput
    · exact .refl _
    · exact .refl _
  | expand nodes data next =>
    simp only [perform]
    split <;> exact .refl _
  | apart | collect => exact .of_eq rfl rfl
  | go | register | fail => exact .refl _

theorem extends_unwind (jobs : List Job) (halt : Halt) (job : Job) :
    e.outputs.Extends (e.unwind jobs halt job).outputs := by
  cases job <;> cases halt <;> exact .of_eq rfl rfl

theorem extends_next (h : e.next setting = some e') : e.outputs.Extends e'.outputs := by
  obtain ⟨job, jobs, -, ⟨-, rfl⟩ | ⟨halt, -, rfl⟩⟩ := next_cases h
  · exact extends_perform _ _
  · exact extends_unwind _ _ _

/-- The sink of a template is never changed but by what is written behind its end. -/
theorem Leads.extends (h : Leads setting e e') : e.outputs.Extends e'.outputs := by
  induction h with
  | refl => exact .refl _
  | tail _ hnext ih => exact ih.trans (extends_next hnext)

variable (setting) in
/-- An execution whose next step writes something to the sink of the template. -/
structure Offers (e : Execution) (w : Written) : Prop where
  runs : e.halt? = none
  direct : e.outputs.apart = []
  write : ∃ job jobs first refused?, e.jobs = job :: jobs ∧
    job.move setting.config e.registry e.included.length = .write w first refused?

/-- A step writes nothing to the sink of the template, or the one thing that it is about to. -/
theorem written_next (h : e.next setting = some e') :
    e'.outputs.written = e.outputs.written ∨
      ∃ w, e.Offers setting w ∧ e'.outputs.written = e.outputs.written ++ [w] := by
  obtain ⟨job, jobs, heq, ⟨hruns, rfl⟩ | ⟨halt, -, rfl⟩⟩ := next_cases h
  · cases hmove : job.move setting.config e.registry e.included.length with
    | write w first refused? =>
      simp only [perform]
      split
      · next outputs hput =>
        obtain ⟨hapart, rfl⟩ | ⟨inner, apart, -, rfl⟩ := Outputs.ok_of_put hput
        · exact .inr ⟨w, ⟨hruns, hapart, job, jobs, first, _, heq, hmove⟩, rfl⟩
        · exact .inl rfl
      · exact .inl rfl
      · exact .inl rfl
    | expand nodes data next =>
      simp only [perform]
      split <;> exact .inl rfl
    | _ => exact .inl rfl
  · cases job <;> cases halt <;> exact .inl rfl

/-- Whatever has been written was offered when all that stands before it had been. -/
theorem Leads.exists_offers (h : Leads setting e e') (hnone : e.outputs.written = [])
    {before later : List Written} {w : Written}
    (hwritten : e'.outputs.written = before ++ w :: later) :
    ∃ mid, Leads setting e mid ∧ mid.outputs.written = before ∧ mid.Offers setting w := by
  -- On the run: the last thing that was written is `w` itself, or stands at the end of `later`.
  induction h generalizing later with
  | refl => simp [hnone] at hwritten
  | @tail mid last hleads hnext ih =>
    obtain hsame | ⟨w', hoffers, hmore⟩ := written_next hnext
    · exact ih (hsame ▸ hwritten)
    rw [hmore] at hwritten
    obtain rfl | ⟨later, w'', rfl⟩ := List.eq_nil_or_concat later
    · obtain ⟨hbefore, hw⟩ := List.append_inj' hwritten rfl
      cases hw
      exact ⟨mid, hleads, hbefore, hoffers⟩
    · refine @ih later ?_
      rw [List.concat_eq_append, ← List.cons_append, ← List.append_assoc] at hwritten
      exact (List.append_inj' hwritten rfl).1

end Execution

-- ════════════════════════════════════════════════════════════════════════
-- Rendering apart
-- ════════════════════════════════════════════════════════════════════════

/-- A helper that waits for what is rendered apart. -/
def Job.collects : Job → Bool
  | collect _ _ => true
  | _ => false

theorem Job.IsPlain.not_collects {job : Job} (h : job.IsPlain) : job.collects = false := by
  cases job with
  | collect => cases h
  | _ => rfl

/-- The number of helpers that wait for what is rendered apart. -/
def waiting (jobs : List Job) : Nat :=
  jobs.countP Job.collects

@[simp]
theorem waiting_append (jobs jobs' : List Job) :
    waiting (jobs ++ jobs') = waiting jobs + waiting jobs' :=
  List.countP_append

theorem waiting_cons {job : Job} (h : job.collects = false) (jobs : List Job) :
    waiting (job :: jobs) = waiting jobs :=
  List.countP_cons_of_neg (by simp [h])

@[simp]
theorem waiting_cons_collect (role : Role) (next : Captured → Script) (jobs : List Job) :
    waiting (.collect role next :: jobs) = waiting jobs + 1 :=
  List.countP_cons_of_pos rfl

theorem waiting_eq_zero {jobs : List Job} (h : ∀ job ∈ jobs, job.IsPlain) : waiting jobs = 0 := by
  rw [waiting, List.countP_eq_zero]
  intro job hjob
  simp [(h job hjob).not_collects]

namespace Execution

variable {setting : Setting} {e e' : Execution}

/-- As many helpers wait for what is rendered apart as there are outputs apart. -/
def Balanced (e : Execution) : Prop :=
  waiting e.jobs = e.outputs.apart.length

theorem length_apart_of_put {o o' : Outputs} {w : Written} (h : o.put w = .ok o') :
    o'.apart.length = o.apart.length := by
  obtain ⟨-, rfl⟩ | ⟨inner, apart, hapart, rfl⟩ := Outputs.ok_of_put h
  · rfl
  · rw [hapart]
    rfl

theorem balanced_write {w : Written} {first jobs : List Job}
    {refused? : Option (RenderError → List Job)} (hfirst : waiting first = 0)
    (hrefused : ∀ refused, refused? = some refused → ∀ fault, waiting (refused fault) = 0)
    (h : waiting jobs = e.outputs.apart.length) :
    (e.perform setting jobs (.write w first refused?)).Balanced := by
  simp only [perform]
  split
  · next outputs hput =>
    simp only [Balanced, waiting_append, hfirst, h, length_apart_of_put hput, Nat.zero_add]
  · next fault refused _ =>
    simp only [Balanced, waiting_append, hrefused refused rfl fault, h, Nat.zero_add]
  · exact h

/-- A plain move neither begins nor ends to render apart. -/
theorem balanced_perform {jobs : List Job} {move : Move} (hmove : move.IsPlain)
    (h : waiting jobs = e.outputs.apart.length) : (e.perform setting jobs move).Balanced := by
  cases move with
  | go first | register change first =>
    simp only [Balanced, perform, waiting_append, waiting_eq_zero hmove, h, Nat.zero_add]
  | write w first refused? =>
    obtain ⟨rfl, rfl⟩ := hmove
    exact balanced_write rfl (by simp) h
  | fail fault => exact h
  | apart | collect | expand => exact hmove.elim

theorem Balanced.next (h : e.Balanced) (hnext : e.next setting = some e') : e'.Balanced := by
  obtain ⟨job, jobs, heq, hcases⟩ := next_cases hnext
  rw [Balanced, heq] at h
  -- The end of what is rendered apart takes one away from both counts, in whichever way it ends.
  cases hjob : job.collects with
  | true =>
    cases job with
    | collect role next =>
      have hjobs : waiting jobs = e.outputs.apart.tail.length := by
        rw [waiting_cons_collect] at h
        rw [List.length_tail]
        omega
      obtain ⟨-, rfl⟩ | ⟨halt, -, rfl⟩ := hcases
      · exact hjobs
      · cases halt <;> exact hjobs
    | _ => cases hjob
  | false =>
    rw [waiting_cons hjob] at h
    obtain ⟨-, rfl⟩ | ⟨halt, -, rfl⟩ := hcases
    · obtain hplain | hspecial :=
        Job.isPlain_move_or_special setting.config e.registry e.included.length job
      · exact balanced_perform hplain h
      cases hspecial with
      | inclusion name context? scope =>
        obtain ⟨body, -, -, hmove⟩ | ⟨body, -, -, hmove⟩ | ⟨-, hmove⟩ :=
          Job.move_inclusion setting.config e.registry e.included.length name context? scope
        all_goals
          rw [hmove]
          exact h
      | capturing role branch scope escape next =>
        -- The only job that adds to both counts.
        have hone : waiting (.nodes (role.branch branch) scope :: .collect role next :: jobs) =
            e.outputs.apart.length + 1 := by
          rw [waiting_cons rfl, waiting_cons_collect, h]
        exact hone
      | writing role piece next =>
        exact balanced_write rfl (by rintro refused ⟨⟩ fault; rfl) h
      | expanding role nodes data next =>
        simp only [Job.move, Script.move, perform]
        split <;> exact h
      | collecting role next => cases hjob
      | _ => exact h
    · cases job with
      | collect => cases hjob
      | _ => cases halt <;> exact h

theorem Balanced.leads (h : e.Balanced) (hleads : Leads setting e e') : e'.Balanced :=
  hleads.keeps Balanced.next h

/-- Where nothing is rendered apart, no helper waits for it. -/
theorem Balanced.not_collects (h : e.Balanced) (hapart : e.outputs.apart = []) {job : Job}
    (hjob : job ∈ e.jobs) : job.collects = false := by
  rw [Balanced, hapart, List.length_nil, waiting, List.countP_eq_zero] at h
  simpa using h job hjob

end Execution

theorem Engine.balanced_start (e : Engine) (nodes : List Node) (data : Value) (sink : Sink) :
    (e.start nodes data sink).Balanced := rfl

/-- The sink of a template has taken one chunk for each thing that was written. -/
theorem Engine.main_of_leads {e : Engine} {nodes : List Node} {data : Value} {sink : Sink}
    {reached : Execution} (h : Execution.Leads e.setting (e.start nodes data sink) reached) :
    reached.outputs.main = ⟨e.config.escapeHtml,
      sink.append (reached.outputs.written.map (Written.chunk e.config.escapeHtml))⟩ := by
  obtain ⟨more, hwritten, hmain⟩ := h.extends
  rw [hmain, hwritten]
  rfl

end TextTemplate

import Precedence.Proofs.Pool.Occupancy
import Precedence.Proofs.Pool.Reckoning
/-!
# A start that was told and did not happen

A worker notes a job as started before it tells the observer of the start, and enters the body after
that. If the observer panics in between, the job was started and its body is never entered: it was
interrupted. Mostly the panic stops the run, which then ends with an error. But if a job that failed
in the meantime is reported first, the run ends with a report, and the report does not mention the
interrupted job (`failed_run_omits_interrupted`).

When the run has returned, every body that was entered has ended (`Reachable.begun_perm`). So a job
was either never started, or interrupted, or its body ended.
-/

namespace Precedence

/-- A job whose body has ended. -/
@[simp] def Event.endedJobs : Event → List JobId
  | .ended _ job _ => [job]
  | _ => []

/-- The observer panicked when it was told that the job starts. -/
theorem Event.mem_unbegunJobs {plan : Plan} {e : Event} {job : JobId} :
    job ∈ e.unbegunJobs plan ↔ ∃ worker message, e = .called worker (.started job) ∧
      plan.observer (.started job) = some message := by
  cases e with
  | called worker callback =>
    cases callback with
    | started other =>
      cases panics : plan.observer (.started other) with
      | none => simp +contextual [panics, eq_comm]
      | some message => simp +contextual [panics, eq_comm]
    | _ => simp
  | _ => simp

theorem Event.mem_endedJobs {e : Event} {job : JobId} :
    job ∈ e.endedJobs ↔ ∃ worker outcome, e = .ended worker job outcome := by
  cases e <;> simp [eq_comm]

namespace Pool

/-- Started jobs whose bodies were not entered because the observer panicked. -/
def unbegun (plan : Plan) (s : Pool) : List JobId :=
  gather (Event.unbegunJobs plan) s.history

section
variable {plan : Plan} {s t : Pool} {worker : Nat} {p q : Position}

theorem mem_unbegun {job : JobId} : job ∈ s.unbegun plan ↔
    ∃ worker message, .called worker (.started job) ∈ s.history ∧
      plan.observer (.started job) = some message := by
  simp only [unbegun, mem_gather, Event.mem_unbegunJobs]
  grind

theorem mem_ended {job : JobId} : job ∈ gather Event.endedJobs s.history ↔
    ∃ worker outcome, .ended worker job outcome ∈ s.history := by
  simp only [mem_gather, Event.mem_endedJobs]
  grind

/-! ## Bodies that were entered -/

theorem Deed.begun_perm (standing : s.positions[worker]? = some p)
    (done : Deed plan s worker p q t)
    (h : s.begun.Perm (gather Event.endedJobs s.history ++ hands Position.body s.positions)) :
    t.begun.Perm (gather Event.endedJobs t.history ++ hands Position.body t.positions) := by
  rw [List.perm_iff_count] at h ⊢
  intro job
  have before := h job
  have moved := done.count_hands standing (f := Position.body) rfl job
  simp only [Pool.begun, List.count_append] at before ⊢
  cases done with
  | begins | succeeds | fails =>
    simp [List.count_cons] at moved ⊢
    omega
  | @reportsLate _ aftermath | @wakes aftermath =>
    cases aftermath <;> simp [Aftermath.next, Aftermath.parting] at moved ⊢ <;> omega
  | _ =>
    simp [gather_ite] at moved ⊢
    omega

/-- A body that was entered has ended, or some worker is inside it. -/
theorem Reachable.begun_perm (h : Reachable plan s) :
    s.begun.Perm (gather Event.endedJobs s.history ++ hands Position.body s.positions) := by
  refine Reachable.invariant (I := fun s => s.begun.Perm
    (gather Event.endedJobs s.history ++ hands Position.body s.positions)) ?_ ?_ ?_ h
  · simp [Pool.begun, Pool.start, hands]
  · exact fun _ ih standing done => done.begun_perm standing ih
  · intro s t reached ih chore
    have begun : t.begun = s.begun :=
      chore.gather (fun _ => rfl) (fun _ => rfl) rfl fun _ _ => rfl
    have ended : gather Event.endedJobs t.history = gather Event.endedJobs s.history :=
      chore.gather (fun _ => rfl) (fun _ => rfl) rfl fun _ _ => rfl
    rw [begun, ended, chore.hands (crew reached) rfl rfl]
    exact ih

section
variable (h : Reachable plan s) {job : JobId}
include h

theorem Reachable.begun_of_ended {outcome : Outcome}
    (ended : .ended worker job outcome ∈ s.history) : job ∈ s.begun :=
  h.begun_perm.mem_iff.mpr (List.mem_append_left _ (mem_ended.mpr ⟨worker, outcome, ended⟩))

theorem Reachable.begun_of_completed (recorded : job ∈ s.completed) : job ∈ s.begun := by
  have succeeded : job ∈ gather Event.succeededJobs s.history := by
    rw [h.chronicle.succeeded.mem_iff]
    exact List.mem_append_left _ (List.mem_append_left _ recorded)
  obtain ⟨worker, ended⟩ := mem_succeeded.mp succeeded
  exact h.begun_of_ended ended

/-- The body of a job is entered, or the observer panics before that, but not both. -/
theorem Reachable.not_unbegun (sound : plan.graph.Sound) (begun : job ∈ s.begun) :
    job ∉ s.unbegun plan := by
  have once := (h.ledger sound).nodup_started (h.readiness sound).distinct
  have apart := (List.nodup_append'.mp (h.chronicle.begun.nodup_iff.mp once)).2.2
  exact fun unbegun => apart (List.mem_append_left _ begun) unbegun

/-! ## When every worker has left -/

variable (alone : ∀ p ∈ s.positions, isGone p = true)
include alone

/-- A body was entered just if it has ended. -/
theorem Reachable.mem_begun_of_gone :
    job ∈ s.begun ↔ ∃ worker outcome, .ended worker job outcome ∈ s.history := by
  have inside : hands Position.body s.positions = [] := hands_of_gone alone fun _ => rfl
  rw [h.begun_perm.mem_iff, inside, List.append_nil, mem_ended]

/-- A started job was entered or it was interrupted. -/
theorem Reachable.started_perm : s.started.Perm (s.begun ++ s.unbegun plan) := by
  have announced : hands Position.unannounced s.positions = [] := hands_of_gone alone fun _ => rfl
  have begun := h.chronicle.begun
  rwa [announced, List.append_nil] at begun

/-- Every job was never started, or its body was entered, or it was interrupted. -/
theorem Reachable.parts_of_gone (sound : plan.graph.Sound) :
    (plan.graph.jobs.filter (· ∉ s.started) ++ s.begun ++ s.unbegun plan).Perm
      plan.graph.jobs := by
  have ledger := h.ledger sound
  have ready := h.readiness sound
  have whole := append_rest_perm (ledger.nodup_started ready.distinct) sound.jobs_nodup
    (ready.started_listed ledger)
  rw [List.append_assoc]
  exact List.perm_append_comm.trans (((h.started_perm alone).symm.append_right _).trans whole)

end

/-- Of a list cut in three, the first part is what is not in the second just if the third is
empty. -/
theorem rest_eq_nil_iff {α : Type} {first second third whole : List α}
    (parts : (first ++ second ++ third).Perm whole) (distinct : whole.Nodup) :
    (∀ a, a ∈ first ↔ a ∈ whole ∧ a ∉ second) ↔ third = [] := by
  obtain ⟨both, -, apart⟩ := List.nodup_append'.mp (parts.nodup_iff.mpr distinct)
  have disjoint := (List.nodup_append'.mp both).2.2
  constructor
  · intro all
    refine List.eq_nil_iff_forall_not_mem.mpr fun a member => ?_
    have inside : a ∈ whole := parts.mem_iff.mp (List.mem_append_right _ member)
    have outside : a ∉ second := fun other => apart (List.mem_append_right _ other) member
    exact apart (List.mem_append_left _ ((all a).mpr ⟨inside, outside⟩)) member
  · rintro rfl a
    rw [← parts.mem_iff, List.append_nil, List.mem_append]
    constructor
    · intro member
      exact ⟨.inl member, fun other => disjoint member other⟩
    · rintro ⟨member | other, outside⟩
      · exact member
      · exact absurd other outside

/-- What became of the jobs of a failed run, by its report and by its history. -/
structure Inventory (plan : Plan) (jobs : List JobId) (s : Pool) (report : FailureReport) :
    Prop where
  /-- A job was never started, or its body was entered, or it was interrupted. -/
  parts : (report.neverRan ++ s.begun ++ s.unbegun plan).Perm jobs
  inOrder : report.neverRan.Sublist jobs
  unentered : ∀ job ∈ report.neverRan, ∀ worker, .began worker job ∉ s.history
  begun : ∀ job, job ∈ s.begun ↔ ∃ worker, .began worker job ∈ s.history
  /-- Every body that was entered has ended. -/
  ended : ∀ job, job ∈ s.begun ↔ ∃ worker outcome, .ended worker job outcome ∈ s.history
  /-- The observer panicked when it was told of the start. -/
  interrupted : ∀ job, job ∈ s.unbegun plan ↔ ∃ worker message,
    .called worker (.started job) ∈ s.history ∧ plan.observer (.started job) = some message
  /-- The report does not mention a job that was interrupted. -/
  omitted : ∀ job ∈ s.unbegun plan, job ∉ report.neverRan ∧ job ∉ report.completed ∧
    job ∉ report.blocked ∧ job ≠ report.failure.job
  /-- So it lists the jobs whose bodies were not entered just if no job was interrupted. -/
  listed_iff : (∀ job, job ∈ report.neverRan ↔
    job ∈ jobs ∧ ∀ worker, .began worker job ∉ s.history) ↔ s.unbegun plan = []

/-- Whatever the observer does, the report of a failed run lists as never run only jobs whose bodies
were not entered. But it omits those at whose start the observer panicked, and only those. -/
theorem failed_run_omits_interrupted {jobs : List JobId} {edges : List Edge}
    {report : FailureReport} (built : Graph.build jobs edges = .ok plan.graph)
    (h : Reachable plan s) (at_ : s.stage = .returned (.ok (.failed report))) :
    Inventory plan jobs s report := by
  have sound := Graph.sound_of_build built
  obtain rfl := Graph.jobs_of_build built
  have conduct := h.conduct sound
  obtain ⟨-, alone, same⟩ := conduct.returned at_
  obtain ⟨held, completed, neverRan, blocked⟩ := failure_of_result same.symm
  obtain ⟨own, worker, happened⟩ := conduct.legit held
  have parts := neverRan ▸ h.parts_of_gone alone sound
  obtain ⟨both, -, apart⟩ := List.nodup_append'.mp (parts.nodup_iff.mpr sound.jobs_nodup)
  have unlisted : ∀ job ∈ s.unbegun plan, job ∉ report.neverRan := fun job unbegun never =>
    apart (List.mem_append_left _ never) unbegun
  refine ⟨parts, neverRan ▸ List.filter_sublist, ?_, fun job => mem_begun,
    fun job => h.mem_begun_of_gone alone, fun job => mem_unbegun, ?_, ?_⟩
  · intro job never worker began
    exact (List.nodup_append'.mp both).2.2 never (mem_begun.mpr ⟨worker, began⟩)
  · intro job unbegun
    refine ⟨unlisted job unbegun, ?_, ?_, ?_⟩
    · intro recorded
      exact h.not_unbegun sound (h.begun_of_completed (completed ▸ recorded)) unbegun
    · intro waits
      rw [blocked, Graph.mem_downstream sound] at waits
      apply h.not_started sound (Deed.outcome_ne_success own) waits
      exact (h.started_perm alone).mem_iff.mpr (List.mem_append_right _ unbegun)
    · rintro rfl
      exact h.not_unbegun sound (h.begun_of_ended happened) unbegun
  · have unentered : ∀ job, (∀ worker, .began worker job ∉ s.history) ↔ job ∉ s.begun := by
      intro job
      rw [Pool.begun, mem_begun, not_exists]
    simp only [unentered]
    exact rest_eq_nil_iff parts sound.jobs_nodup

/-- Two workers run two jobs. The first job panics, and the observer panics when it is told that the
second one starts. -/
def startled : Plan where
  graph := ⟨[⟨"a"⟩, ⟨"b"⟩], [], [⟨"b"⟩, ⟨"a"⟩]⟩
  workers := 2
  outcome job := if job = ⟨"a"⟩ then .panic "boom" else .success
  observer callback := if callback = .started ⟨"b"⟩ then some "startled" else none

theorem returned_startled : (finalState startled {}).stage =
    .returned (.ok (.failed ⟨.ofPanic ⟨"a"⟩ "boom", [], [], [], 2⟩)) := by
  have final : (finalState startled {}).stage = .returned (.ok (.failed
      ⟨.ofPanic ⟨"a"⟩ "boom", [], [], startled.graph.downstream ⟨"a"⟩, 2⟩)) := by rfl
  have alone : startled.graph.downstream ⟨"a"⟩ = [] := by cbv
  rwa [alone] at final

/-- The report accounts for the first job only. -/
theorem startled_inventory :
    (finalState startled {}).unbegun startled = [⟨"b"⟩] ∧
      Inventory startled [⟨"a"⟩, ⟨"b"⟩] (finalState startled {})
        ⟨.ofPanic ⟨"a"⟩ "boom", [], [], [], 2⟩ := by
  have built : Graph.build [⟨"a"⟩, ⟨"b"⟩] [] = .ok startled.graph := by cbv
  exact ⟨by rfl, failed_run_omits_interrupted built (reachable_finalState startled {})
    returned_startled⟩

/-- The body of the second job is not entered, but it is not among the jobs that never ran. -/
theorem startled_omits_second :
    let s := finalState startled {}
    let report : FailureReport := ⟨.ofPanic ⟨"a"⟩ "boom", [], [], [], 2⟩
    Graph.build [⟨"a"⟩, ⟨"b"⟩] [] = .ok startled.graph ∧ Reachable startled s ∧
      s.stage = .returned (.ok (.failed report)) ∧
      (∀ worker, .began worker ⟨"b"⟩ ∉ s.history) ∧ ⟨"b"⟩ ∉ report.neverRan := by
  refine ⟨by cbv, reachable_finalState startled {}, returned_startled, ?_, List.not_mem_nil⟩
  intro worker began
  have begun : (finalState startled {}).begun = [⟨"a"⟩] := by rfl
  have entered : ⟨"b"⟩ ∈ (finalState startled {}).begun := mem_begun.mpr ⟨worker, began⟩
  rw [begun] at entered
  simp at entered

end

end Pool

end Precedence

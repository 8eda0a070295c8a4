import Precedence.Proofs.Acceptance
import Precedence.Proofs.Pool.Verdict
/-!
# What a failed run leaves behind

A worker leaves its loop for good when a body of its own fails, so no more bodies fail than there
are workers (`Reachable.failed_length_le`). When the run has returned no worker holds a job any
more. Therefore the report of a failed run accounts for every job (`failed_run_accounts_for_jobs`):
it succeeded, it failed, or its body was never entered.
-/

namespace Precedence

/-- Counts a worker that has left its loop, or is about to, because of a failure. -/
@[simp] def Position.broken : Position → Nat
  | .reporting _ _ | .closing _ | .broadcasting _ | .waking _ | .lamenting _ | .gone .failed => 1
  | _ => 0

/-- A job whose body failed. -/
@[simp] def Event.failedJobs : Event → List JobId
  | .ended _ job outcome => if outcome = .success then [] else [job]
  | _ => []

theorem Event.mem_failedJobs {e : Event} {job : JobId} : job ∈ e.failedJobs ↔
    ∃ worker outcome, outcome ≠ .success ∧ e = .ended worker job outcome := by
  cases e with
  | ended worker other outcome => by_cases fine : outcome = .success <;> simp [fine, eq_comm]
  | _ => simp

theorem Event.mem_begunJobs {e : Event} {job : JobId} :
    job ∈ e.begunJobs ↔ ∃ worker, e = .began worker job := by
  cases e <;> simp [eq_comm]

/-- With an observer that never panics, only a failure keeps a started job from succeeding. -/
theorem Event.spoiledJobs_of_silent {plan : Plan}
    (silent : ∀ callback, plan.observer callback = none) :
    Event.spoiledJobs plan = Event.failedJobs := by
  funext e
  cases e with
  | called worker callback => cases callback <;> simp [silent]
  | _ => rfl

/-- With an observer that never panics, every body is entered once its start was told. -/
theorem unbegun_of_silent {plan : Plan} (silent : ∀ callback, plan.observer callback = none)
    (history : List Event) : gather (Event.unbegunJobs plan) history = [] := by
  refine List.flatMap_eq_nil_iff.mpr fun e _ => ?_
  unfold Event.unbegunJobs
  split <;> simp [silent]

/-- A part of a list without repetitions, followed by the rest of the list. -/
theorem append_rest_perm {α : Type} [DecidableEq α] {part whole : List α} (once : part.Nodup)
    (distinct : whole.Nodup) (inside : part ⊆ whole) :
    (part ++ whole.filter (· ∉ part)).Perm whole := by
  have same : (whole.filter (· ∈ part)).Perm part := by
    refine (List.perm_ext_iff_of_nodup (distinct.filter _) once).mpr fun a => ?_
    simpa using fun member => inside member
  calc
    (part ++ whole.filter (· ∉ part)).Perm
        (whole.filter (· ∈ part) ++ whole.filter (· ∉ part)) := same.symm.append_right _
    _ = whole.filter (· ∈ part) ++ whole.filter (fun a => !decide (a ∈ part)) := by simp
    (_ : List α).Perm whole := List.filter_append_perm _ whole

namespace Pool

/-- Jobs whose body failed. -/
def failed (s : Pool) : List JobId := gather Event.failedJobs s.history

section
variable {plan : Plan} {s t : Pool} {worker : Nat} {p q : Position}

theorem mem_failed {job : JobId} : job ∈ s.failed ↔
    ∃ worker outcome, outcome ≠ .success ∧ .ended worker job outcome ∈ s.history := by
  simp only [failed, mem_gather, Event.mem_failedJobs]
  grind

theorem mem_succeeded {job : JobId} : job ∈ gather Event.succeededJobs s.history ↔
    ∃ worker, .ended worker job .success ∈ s.history := by
  simp only [mem_gather, Event.mem_succeededJobs]
  grind

theorem mem_begun {job : JobId} : job ∈ gather Event.begunJobs s.history ↔
    ∃ worker, .began worker job ∈ s.history := by
  simp only [mem_gather, Event.mem_begunJobs]
  grind

/-! ## Every worker fails at most once -/

theorem Deed.failed_length_le (standing : s.positions[worker]? = some p)
    (done : Deed plan s worker p q t)
    (h : s.failed.length ≤ Pool.census Position.broken s.positions) :
    t.failed.length ≤ Pool.census Position.broken t.positions := by
  have moved := done.census standing (f := Position.broken) rfl
  simp only [Pool.failed] at h ⊢
  cases done with
  | fails failed =>
    simp [outcome_ne_success failed] at moved ⊢
    omega
  | succeeds fine =>
    simp [fine] at moved ⊢
    omega
  | @reportsLate _ aftermath | @wakes aftermath =>
    cases aftermath <;> simp [Aftermath.next, Aftermath.parting] at moved ⊢ <;> omega
  | _ =>
    simp [gather_ite] at moved ⊢
    omega

theorem Chore.failed (chore : Chore plan s t) : t.failed = s.failed :=
  chore.gather (fun _ => rfl) (fun _ => rfl) rfl fun _ _ => rfl

theorem Reachable.failed_le_broken (h : Reachable plan s) :
    s.failed.length ≤ census Position.broken s.positions := by
  refine Reachable.invariant
    (I := fun s => s.failed.length ≤ census Position.broken s.positions) ?_ ?_ ?_ h
  · simp [Pool.failed, Pool.start]
  · exact fun _ ih standing done => done.failed_length_le standing ih
  · intro s t reached ih chore
    rw [chore.failed, chore.census (crew reached) rfl rfl]
    exact ih

/-- No more bodies fail than there are workers. -/
theorem Reachable.failed_length_le (h : Reachable plan s) : s.failed.length ≤ plan.workers := by
  have bound : ∀ p : Position, p.broken ≤ 1 := by
    intro p
    unfold Position.broken
    split <;> omega
  calc
    s.failed.length ≤ census Position.broken s.positions := h.failed_le_broken
    _ ≤ s.positions.length := census_le_length bound
    _ = plan.workers := (crew h).size

/-! ## When every worker has left -/

section
variable (alone : ∀ p ∈ s.positions, isGone p = true)
include alone

/-- Who has left holds no job. -/
theorem hands_of_gone {f : Position → List JobId} (none : ∀ exit, f (.gone exit) = []) :
    hands f s.positions = [] := by
  refine hands_eq_nil fun p member => ?_
  have left := alone p member
  cases p with
  | gone exit => exact none exit
  | _ => simp [isGone] at left

variable (silent : ∀ callback, plan.observer callback = none)
include silent

theorem Ledger.started_of_gone (ledger : Ledger plan s) :
    s.started.Perm (s.completed ++ s.failed) := by
  have idle : s.busy = [] := hands_of_gone alone fun _ => rfl
  have spoiled : s.spoiled plan = s.failed :=
    congrArg (gather · s.history) (Event.spoiledJobs_of_silent silent)
  have started := ledger.started
  rwa [idle, spoiled, List.append_nil] at started

/-- Every job is in one of three lists, and only once. -/
theorem Ledger.parts_of_gone (ledger : Ledger plan s) (ready : Readiness plan s)
    (sound : plan.graph.Sound) :
    (s.completed ++ plan.graph.jobs.filter (· ∉ s.started) ++ s.failed).Perm plan.graph.jobs := by
  have parts := append_rest_perm (ledger.nodup_started ready.distinct) sound.jobs_nodup
    (ready.started_listed ledger)
  have started := ledger.started_of_gone alone silent
  refine List.Perm.trans ?_ ((started.symm.append_right _).trans parts)
  rw [List.append_assoc, List.append_assoc]
  exact List.perm_append_comm.append_left _

/-- The bodies of all started jobs were entered. -/
theorem Chronicle.mem_started_of_gone (chronicle : Chronicle plan s) {job : JobId} :
    job ∈ s.started ↔ ∃ worker, .began worker job ∈ s.history := by
  have announced : hands Position.unannounced s.positions = [] := hands_of_gone alone fun _ => rfl
  have begun := chronicle.begun
  rw [announced, unbegun_of_silent silent, List.append_nil, List.append_nil] at begun
  exact begun.mem_iff.trans mem_begun

/-- All jobs whose body returned without an error are recorded. -/
theorem Chronicle.mem_completed_of_gone (chronicle : Chronicle plan s) {job : JobId} :
    job ∈ s.completed ↔ ∃ worker, .ended worker job .success ∈ s.history := by
  have recorded : hands Position.unrecorded s.positions = [] := hands_of_gone alone fun _ => rfl
  have kept : gather (Event.lostJobs plan) s.history = [] := by
    refine List.flatMap_eq_nil_iff.mpr fun e _ => ?_
    unfold Event.lostJobs
    split <;> simp [silent]
  have succeeded := chronicle.succeeded
  rw [recorded, kept, List.append_nil, List.append_nil] at succeeded
  exact succeeded.mem_iff.symm.trans mem_succeeded

end

/-- What waits for a job that does not succeed is never started. -/
theorem Reachable.not_started (sound : plan.graph.Sound) (h : Reachable plan s) {u v : JobId}
    (bad : plan.outcome u ≠ .success) (precedes : plan.graph.Precedes u v) : v ∉ s.started := by
  intro started
  have ledger := h.ledger sound
  have before := (h.readiness sound).preceding_completed ledger (ledger.started_readied started)
    precedes
  exact bad (h.chronicle.outcome_of_completed before)

/-- How the report of a failed run accounts for the jobs, with those that failed beside it. -/
structure Accounting (plan : Plan) (jobs : List JobId) (edges : List Edge) (s : Pool)
    (report : FailureReport) (failed : List JobId) : Prop where
  /-- Every job is in one of three lists, and only once. -/
  parts : (report.completed ++ report.neverRan ++ failed).Perm jobs
  /-- The bodies that returned without an error. -/
  succeeded : ∀ job, job ∈ report.completed ↔ ∃ worker, .ended worker job .success ∈ s.history
  once : report.completed.Nodup
  ordered : ∀ edge ∈ edges, edge.target ∈ report.completed → edge.source ∈ report.completed ∧
    report.completed.idxOf edge.source < report.completed.idxOf edge.target
  /-- The bodies that were not entered, in the order of the jobs. -/
  unentered : ∀ job, job ∈ report.neverRan ↔ job ∈ jobs ∧ ∀ worker, .began worker job ∉ s.history
  inOrder : report.neverRan.Sublist jobs
  /-- The bodies that failed. -/
  failing : ∀ job, job ∈ failed ↔
    ∃ worker outcome, outcome ≠ .success ∧ .ended worker job outcome ∈ s.history
  blamed : report.failure.job ∈ failed
  bounded : failed.length ≤ plan.workers
  /-- Nobody is at work any more. -/
  alone : ∀ p ∈ s.positions, isGone p = true
  /-- The jobs that wait for the blamed one, in ascending order. -/
  blocked : ∀ v, v ∈ report.blocked ↔ Path edges report.failure.job v
  ascending : report.blocked.Pairwise (·.name < ·.name)
  withheld : report.blocked ⊆ report.neverRan

section
variable {jobs : List JobId} {edges : List Edge} {report : FailureReport}

/-- What a run reports that ends with a failure. -/
theorem failure_of_result (h : s.result plan = .ok (.failed report)) :
    s.latch.held = some (.job report.failure) ∧ report.completed = s.completed ∧
      report.neverRan = plan.graph.jobs.filter (· ∉ s.started) ∧
      report.blocked = plan.graph.downstream report.failure.job := by
  unfold result at h
  split at h
  · split at h <;> simp at h
  · rename_i failure held
    simp only [Except.ok.injEq, Verdict.failed.injEq] at h
    subst h
    exact ⟨held, rfl, rfl, rfl⟩
  · simp at h

/-- If the observer does not panic, the report of a failed run accounts for every job: it succeeded,
and all that precedes it before it; or its body was never entered, as is so for all that waits for
the blamed job; or it failed, as at most one job did for each worker. -/
theorem failed_run_accounts_for_jobs (built : Graph.build jobs edges = .ok plan.graph)
    (silent : ∀ callback, plan.observer callback = none) (h : Reachable plan s)
    (at_ : s.stage = .returned (.ok (.failed report))) :
    ∃ failed, Accounting plan jobs edges s report failed := by
  have sound := Graph.sound_of_build built
  obtain rfl := Graph.jobs_of_build built
  have ledger := h.ledger sound
  have ready := h.readiness sound
  have conduct := h.conduct sound
  obtain ⟨-, alone, same⟩ := conduct.returned at_
  obtain ⟨held, completed, neverRan, blocked⟩ := failure_of_result same.symm
  obtain ⟨own, worker, happened⟩ := conduct.legit held
  have bad := Deed.outcome_ne_success own
  have waiting : ∀ v, v ∈ report.blocked ↔ Path edges report.failure.job v := by
    intro v
    rw [blocked, Graph.mem_downstream sound, Graph.precedes_iff_path built]
  refine ⟨s.failed, ?_, ?_, ?_, ?_, ?_, ?_, fun job => mem_failed, ?_, h.failed_length_le, alone,
    waiting, ?_, ?_⟩
  · rw [completed, neverRan]
    exact ledger.parts_of_gone alone silent ready sound
  · rw [completed]
    exact fun job => h.chronicle.mem_completed_of_gone alone silent
  · rw [completed]
    exact ledger.nodup_completed ready.distinct
  · rw [completed]
    intro edge member target
    have dependency := Graph.mem_dependencies.mpr ((Graph.mem_edges_of_build built).mpr member)
    exact ⟨(h.ordered sound).mem target dependency, (h.ordered sound).idxOf_lt target dependency⟩
  · intro job
    simp [neverRan, h.chronicle.mem_started_of_gone alone silent]
  · rw [neverRan]
    exact List.filter_sublist
  · exact mem_failed.mpr ⟨worker, _, bad, happened⟩
  · rw [blocked]
    exact Graph.ascending_downstream sound _
  · intro v member
    have precedes := (Graph.precedes_iff_path built).mpr ((waiting v).mp member)
    rw [neverRan, List.mem_filter]
    exact ⟨sound.mem_jobs_of_precedes precedes, decide_eq_true (h.not_started sound bad precedes)⟩

/-- Three workers run a diamond whose first job succeeds and whose middle jobs panic. -/
def twins : Plan where
  graph := .diamond
  workers := 3
  outcome job := if job = ⟨"1"⟩ then .success else .panic job.name

/-- Both middle jobs of the diamond fail, the second one too late to be blamed, and the last job
never runs. -/
theorem twins_accounts_for_jobs :
    let report : FailureReport := ⟨.ofPanic ⟨"2"⟩ "2", [⟨"1"⟩], [⟨"4"⟩], [⟨"4"⟩], 3⟩
    (finalState twins {}).stage = .returned (.ok (.failed report)) ∧
      (finalState twins {}).failed = [⟨"2"⟩, ⟨"3"⟩] ∧
      ∃ failed, Accounting twins Graph.diamond.jobs Graph.diamond.edges (finalState twins {})
        report failed := by
  have at_ : (finalState twins {}).stage = .returned (.ok (.failed
      ⟨.ofPanic ⟨"2"⟩ "2", [⟨"1"⟩], [⟨"4"⟩], Graph.diamond.downstream ⟨"2"⟩, 3⟩)) := by rfl
  rw [Graph.downstream_diamond] at at_
  exact ⟨at_, by rfl, failed_run_accounts_for_jobs Graph.build_diamond (fun _ => rfl)
    (reachable_finalState twins {}) at_⟩

end

end

end Pool

end Precedence

import Precedence.Proofs.Pool.Report
import Precedence.Proofs.Scheduler
/-!
# The life of a scheduler

`Scheduler.Runs` is a call of a scheduler: what the run gives and what becomes of the scheduler,
whatever the order in which the threads act. The call that `Scheduler.run` makes is one of them
(`runs_run`). A run succeeds if and only if it was flawless, and otherwise its first report decides
it (`first_report_decides_run`). After that a scheduler stays as it is and refuses every call
(`run_of_used`).
-/

namespace Precedence

/-- No body failed, and the observer did not panic when it was told of a start or a success. -/
structure Flawless (observer : Callback → Option String) (history : List Event) : Prop where
  bodies : ∀ worker job outcome, .ended worker job outcome ∈ history → outcome = .success
  callbacks : ∀ worker callback, .called worker callback ∈ history →
    (∀ failure, callback ≠ .failed failure) → observer callback = none

/-- What the first report of a run makes of it: the failure of a job is the verdict, and the message
of a panic is the error if the observer was being told of a start or a success. -/
def Decides (plan : Plan) (run : Run) : Prop :=
  ∃ later worker cause earlier, run.history = later ++ .reported worker cause true :: earlier ∧
    (∀ other cause' first, .reported other cause' first ∉ earlier) ∧
    ((∃ report, cause = .job report.failure ∧ run.result = .ok (.failed report) ∧
      JobFailure.ofOutcome? report.failure.job (plan.outcome report.failure.job) =
        some report.failure ∧
      .ended worker report.failure.job (plan.outcome report.failure.job) ∈ earlier) ∨
    ∃ message callback, cause = .internal (.workerPanicked message) ∧
      run.result = .error (.workerPanicked message) ∧ (∀ failure, callback ≠ .failed failure) ∧
      plan.observer callback = some message ∧ .called worker callback ∈ earlier)

namespace Pool

section
variable {plan : Plan} {s : Pool} {result : Except Error Verdict}

/-- In a flawless run every started job succeeds. -/
theorem spoiled_eq_nil_iff : s.spoiled plan = [] ↔ Flawless plan.observer s.history := by
  simp only [spoiled, List.eq_nil_iff_forall_not_mem, mem_gather, not_exists, not_and]
  constructor
  · intro none
    constructor
    · intro worker job outcome happened
      by_contra bad
      exact none job _ happened (by simp [bad])
    · intro worker callback happened other
      cases callback with
      | failed failure => exact absurd rfl (other failure)
      | started job | succeeded job =>
        by_contra loud
        exact none job _ happened (by simp [loud])
  · intro flawless job e happened inside
    cases e with
    | ended worker other outcome =>
      simp [flawless.bodies worker other outcome happened] at inside
    | called worker callback =>
      cases callback with
      | failed failure => simp at inside
      | started other | succeeded other =>
        simp [flawless.callbacks worker _ happened (by simp)] at inside
    | _ => simp at inside

/-- A run that was not stopped has finished every job and was flawless. -/
theorem succeeded_of_idle (conduct : Conduct plan s) (at_ : s.stage = .returned result)
    (idle : s.latch = {}) :
    (∃ report, result = .ok (.succeeded report)) ∧ Flawless plan.observer s.history := by
  obtain ⟨settled, alone, rfl⟩ := conduct.returned at_
  have full : s.tally.complete = true := settled.resolve_right (by simp [idle])
  refine ⟨⟨_, by simp [Pool.result, idle, full]; rfl⟩, spoiled_eq_nil_iff.mp ?_⟩
  by_contra lost
  obtain stopped | ⟨cause, aftermath, member⟩ := conduct.spoiled lost
  · simp [idle] at stopped
  · simpa [isGone] using alone _ member

/-- The cause that the latch holds was reported first, and decides the run. -/
theorem decides_of_cause (conduct : Conduct plan s) (reports : Reports plan s)
    (at_ : s.stage = .returned result) {cause : StopCause} (set : s.latch = ⟨true, some cause⟩) :
    Decides plan { result, history := s.history } := by
  obtain ⟨-, -, rfl⟩ := conduct.returned at_
  obtain ⟨worker, later, earlier, split, before, attested⟩ := reports.first cause set
  refine ⟨later, worker, cause, earlier, split, ?_, ?_⟩
  · intro other cause' first member
    simpa using before _ member
  · cases cause with
    | job failure =>
      exact .inl ⟨⟨failure, s.completed, plan.graph.jobs.filter (· ∉ s.started),
        plan.graph.downstream failure.job, plan.workers⟩, rfl, by simp [Pool.result, set],
        attested.1, attested.2⟩
    | internal error =>
      obtain ⟨message, callback, rfl, loud, told⟩ := attested
      refine .inr ⟨message, callback, rfl, by simp [Pool.result, set], ?_, loud, told⟩
      rintro failure rfl
      simpa using before _ told

end

end Pool

section
variable {plan : Plan} {run : Run}

/-- A run that was decided by a report did not succeed, and was not flawless. -/
theorem Decides.flawed (h : Decides plan run) :
    (∀ report, run.result ≠ .ok (.succeeded report)) ∧ ¬ Flawless plan.observer run.history := by
  obtain ⟨later, worker, cause, earlier, split, -, blamed | panicked⟩ := h
  · obtain ⟨report, -, failed, own, happened⟩ := blamed
    refine ⟨by simp [failed], fun flawless => ?_⟩
    have noted : .ended worker report.failure.job (plan.outcome report.failure.job) ∈ run.history :=
      split ▸ List.mem_append_right later (List.mem_cons_of_mem _ happened)
    exact Pool.Deed.outcome_ne_success own (flawless.bodies worker _ _ noted)
  · obtain ⟨message, callback, -, error, other, loud, told⟩ := panicked
    refine ⟨by simp [error], fun flawless => ?_⟩
    have noted : .called worker callback ∈ run.history :=
      split ▸ List.mem_append_right later (List.mem_cons_of_mem _ told)
    simp [flawless.callbacks worker callback noted other] at loud

/-- A run of jobs succeeds flawlessly, or a report decides it. -/
theorem decided_of_ends (sound : plan.graph.Sound) (nonempty : plan.graph.jobs ≠ [])
    (ends : plan.Ends run) :
    ((∃ report, run.result = .ok (.succeeded report)) ∧ Flawless plan.observer run.history) ∨
      Decides plan run := by
  cases ends with
  | idle empty => exact absurd empty nonempty
  | rootless _ rootless => exact absurd rootless (sound.roots_ne_nil nonempty)
  | @pool s result _ _ reached at_ =>
    have conduct := reached.conduct sound
    obtain idle | ⟨cause, set, -⟩ := conduct.latch
    · exact .inl (Pool.succeeded_of_idle conduct at_ idle)
    · exact .inr (Pool.decides_of_cause conduct (reached.reports sound) at_ set)

/-- Only a panic of the observer when it is told of a start or a success makes an error of a run. -/
theorem Decides.ok_of_silent (h : Decides plan run)
    (silent : ∀ worker callback, .called worker callback ∈ run.history →
      (∀ failure, callback ≠ .failed failure) → plan.observer callback = none) :
    ∃ verdict, run.result = .ok verdict := by
  obtain ⟨later, worker, cause, earlier, split, -, blamed | panicked⟩ := h
  · obtain ⟨report, -, failed, -⟩ := blamed
    exact ⟨_, failed⟩
  · obtain ⟨message, callback, -, -, other, loud, told⟩ := panicked
    have noted : .called worker callback ∈ run.history :=
      split ▸ List.mem_append_right later (List.mem_cons_of_mem _ told)
    simp [silent worker callback noted other] at loud

end

namespace Scheduler

/-- What a scheduler runs with the bodies and the observer given. -/
def plan (s : Scheduler) (outcome : JobId → Outcome) (observer : Callback → Option String) : Plan :=
  ⟨s.graph, s.workers, outcome, observer⟩

/-- A call of a scheduler: the run it makes, and the scheduler afterwards. -/
inductive Runs (s : Scheduler) (outcome : JobId → Outcome) (observer : Callback → Option String) :
    Run → Scheduler → Prop where
  | first {run : Run} (idle : s.state = .idle) (ends : (s.plan outcome observer).Ends run) :
      Runs s outcome observer run { s with state := settledState run.result }
  | refused (used : s.state ≠ .idle) : Runs s outcome observer { result := .error (.notIdle s.state) } s

/-- Some call takes one scheduler to the other. -/
def Becomes (s t : Scheduler) : Prop := ∃ outcome observer run, s.Runs outcome observer run t

section
variable {s t : Scheduler} {outcome : JobId → Outcome} {observer : Callback → Option String}
  {run : Run}

/-- A scheduler that is not idle refuses every call, runs nothing and stays as it is. -/
theorem run_of_used (used : s.state ≠ .idle) (pace : Pool.Pace) :
    s.run outcome observer pace = ({ result := .error (.notIdle s.state) }, s) := by
  unfold run
  split
  · rename_i idle
    exact absurd idle used
  · rfl

/-- The call that is made in rounds is one of those that may be made. -/
theorem runs_run (sound : s.graph.Sound) (manned : 1 ≤ s.workers) (pace : Pool.Pace) :
    s.Runs outcome observer (s.run outcome observer pace).1 (s.run outcome observer pace).2 := by
  by_cases idle : s.state = .idle
  · have ends : (s.plan outcome observer).Ends (execute (s.plan outcome observer) pace) :=
      ends_execute sound manned pace
    simp only [Scheduler.run, idle]
    exact .first idle ends
  · rw [run_of_used idle]
    exact .refused idle

theorem settledState_eq_succeeded {result : Except Error Verdict} :
    settledState result = .succeeded ↔ ∃ report, result = .ok (.succeeded report) := by
  constructor
  · intro h
    unfold settledState at h
    split at h
    · exact ⟨_, rfl⟩
    · simp at h
  · rintro ⟨report, rfl⟩
    rfl

theorem settledState_eq_failed {result : Except Error Verdict} :
    settledState result = .failed ↔ ∀ report, result ≠ .ok (.succeeded report) := by
  constructor
  · rintro h report rfl
    simp [settledState] at h
  · intro h
    unfold settledState
    split
    · exact absurd rfl (h _)
    · rfl

theorem settledState_ne_idle (result : Except Error Verdict) : settledState result ≠ .idle := by
  unfold settledState
  split <;> simp

theorem Runs.eq_of_used (h : s.Runs outcome observer run t) (used : s.state ≠ .idle) : t = s := by
  cases h with
  | first idle => exact absurd idle used
  | refused => rfl

/-- However often it is called, a scheduler that is not idle stays as it is. -/
theorem eq_of_becomes (used : s.state ≠ .idle) (later : Relation.ReflTransGen Becomes s t) :
    t = s := by
  induction later with
  | refl => rfl
  | tail _ call ih =>
    obtain ⟨outcome, observer, run, runs⟩ := call
    subst ih
    exact runs.eq_of_used used

/-- What the first call of a scheduler comes to. -/
structure Settles (s : Scheduler) (outcome : JobId → Outcome)
    (observer : Callback → Option String) (run : Run) (t : Scheduler) : Prop where
  /-- The run succeeds if and only if nothing has gone wrong in it. -/
  success : (∃ report, run.result = .ok (.succeeded report)) ↔ Flawless observer run.history
  /-- Otherwise its first report decides it. -/
  decided : ¬ Flawless observer run.history → Decides (s.plan outcome observer) run
  /-- A panic of the observer when it is told of a failure makes no error of the run. -/
  unmasked : (∀ worker callback, .called worker callback ∈ run.history →
    (∀ failure, callback ≠ .failed failure) → observer callback = none) →
      ∃ verdict, run.result = .ok verdict
  /-- The state tells whether the run succeeded. -/
  succeeded : t.state = .succeeded ↔ ∃ report, run.result = .ok (.succeeded report)
  failed : t.state = .failed ↔ ∀ report, run.result ≠ .ok (.succeeded report)
  /-- Every later call is refused: it runs nothing, and the state stays as it is. -/
  refuses : ∀ later, Relation.ReflTransGen Becomes t later → ∀ outcome' observer' pace,
    later.run outcome' observer' pace = ({ result := .error (.notIdle t.state) }, t)

theorem settles_of_ends (sound : s.graph.Sound) (nonempty : s.graph.jobs ≠ [])
    (ends : (s.plan outcome observer).Ends run) :
    s.Settles outcome observer run { s with state := settledState run.result } := by
  have used : settledState run.result ≠ .idle := settledState_ne_idle _
  have decided : (∃ report, run.result = .ok (.succeeded report)) ∧
      Flawless observer run.history ∨ Decides (s.plan outcome observer) run :=
    decided_of_ends sound nonempty ends
  refine ⟨⟨?_, ?_⟩, ?_, ?_, settledState_eq_succeeded, settledState_eq_failed, ?_⟩
  · rintro ⟨report, success⟩
    obtain ⟨-, flawless⟩ | decides := decided
    · exact flawless
    · exact absurd success (decides.flawed.1 report)
  · intro flawless
    obtain ⟨success, -⟩ | decides := decided
    · exact success
    · exact absurd flawless decides.flawed.2
  · exact fun flawed => decided.resolve_left fun ⟨_, flawless⟩ => flawed flawless
  · intro silent
    obtain ⟨⟨report, success⟩, -⟩ | decides := decided
    · exact ⟨_, success⟩
    · exact decides.ok_of_silent silent
  · intro later becomes outcome' observer' pace
    obtain rfl := eq_of_becomes used becomes
    exact run_of_used used pace

/-- The first call of a scheduler that has jobs makes some run, and whichever it makes, the run
succeeds if nothing goes wrong in it, and otherwise the first report that reaches the latch decides
it. Afterwards the scheduler refuses every call. -/
theorem first_report_decides_run {jobs : List JobId} {edges : List Edge}
    (built : Graph.build jobs edges = .ok s.graph) (nonempty : jobs ≠ []) (manned : 1 ≤ s.workers)
    (idle : s.state = .idle) :
    (∀ pace, s.Runs outcome observer (s.run outcome observer pace).1
      (s.run outcome observer pace).2) ∧
      ∀ run t, s.Runs outcome observer run t → s.Settles outcome observer run t := by
  have sound := Graph.sound_of_build built
  obtain rfl := Graph.jobs_of_build built
  refine ⟨runs_run sound manned, fun run t runs => ?_⟩
  cases runs with
  | first _ ends => exact settles_of_ends sound nonempty ends
  | refused used => exact absurd idle used

/-- An observer that panics when it is told of a failure. -/
def faint : Callback → Option String
  | .failed _ => some "faint"
  | _ => none

/-- Two workers run a diamond whose second job panics, and the observer panics when it is told of
that. The run blames the job all the same. -/
theorem diamond_blames_job :
    let s : Scheduler := { graph := .diamond, workers := 2 }
    let outcome := (Plan.diamond 2 (.panic "boom")).outcome
    let report : FailureReport :=
      ⟨.ofPanic ⟨"2"⟩ "boom", [⟨"1"⟩], [⟨"3"⟩, ⟨"4"⟩], [⟨"4"⟩], 2⟩
    (s.run outcome faint {}).1.result = .ok (.failed report) ∧
      .unwound 1 "faint" ∈ (s.run outcome faint {}).1.history ∧
      (s.run outcome faint {}).2.state = .failed ∧
      s.Settles outcome faint (s.run outcome faint {}).1 (s.run outcome faint {}).2 := by
  have final : (Scheduler.run { graph := .diamond, workers := 2 }
      (Plan.diamond 2 (.panic "boom")).outcome faint {}).1.result = .ok (.failed
        ⟨.ofPanic ⟨"2"⟩ "boom", [⟨"1"⟩], [⟨"3"⟩, ⟨"4"⟩], Graph.diamond.downstream ⟨"2"⟩, 2⟩) := by
    rfl
  rw [Graph.downstream_diamond] at final
  refine ⟨final, of_decide_eq_true (by rfl), by rfl, ?_⟩
  obtain ⟨runs, settles⟩ := @first_report_decides_run { graph := .diamond, workers := 2 }
    (Plan.diamond 2 (.panic "boom")).outcome faint _ _ Graph.build_diamond (by decide) (by decide)
    rfl
  exact settles _ _ (runs {})

end

end Scheduler

end Precedence

import Precedence.Proofs.Pool.Verdict
/-!
# What reaches the latch

`Reports` says where a report comes from. A worker reports only what has happened to it: a body that
it ran has failed, or the observer panicked when the worker told it something. A panic that ends the
loop of a worker is reported by that worker. And the latch holds what was reported first, before the
observer was told of any failure.

A broken rule of the scheduler is nothing that happens to a worker. So the checks for it never find
anything (`guards_find_nothing`).
-/

namespace Precedence

/-- Whether an event happens only after a report, or is one. -/
@[simp] def Event.afterReport : Event → Bool
  | .reported _ _ _ | .called _ (.failed _) => true
  | _ => false

namespace Pool

theorem mem_parting {aftermath : Aftermath} {worker : Nat} {e : Event} :
    e ∈ aftermath.parting worker ↔ aftermath = .leave ∧ e = .left worker .failed := by
  by_cases leaves : aftermath = .leave <;> simp [Aftermath.parting, leaves]

/-- What a worker may report: that a body failed which it has run, or that the observer panicked
when it was told something by this worker. -/
def Attested (plan : Plan) (history : List Event) (worker : Nat) : StopCause → Prop
  | .job failure =>
    JobFailure.ofOutcome? failure.job (plan.outcome failure.job) = some failure ∧
      .ended worker failure.job (plan.outcome failure.job) ∈ history
  | .internal error => ∃ message callback, error = .workerPanicked message ∧
      plan.observer callback = some message ∧ .called worker callback ∈ history

/-- The first report of a history: its cause was attested by then, and nothing of what follows a
report had happened yet. -/
def FirstReport (plan : Plan) (history : List Event) (worker : Nat) (cause : StopCause) : Prop :=
  ∃ later earlier, history = later ++ .reported worker cause true :: earlier ∧
    (∀ e ∈ earlier, e.afterReport = false) ∧ Attested plan earlier worker cause

structure Reports (plan : Plan) (s : Pool) : Prop where
  attested : ∀ worker cause aftermath, s.positions[worker]? = some (.reporting cause aftermath) →
    Attested plan s.history worker cause
  reported : ∀ worker cause first, .reported worker cause first ∈ s.history →
    Attested plan s.history worker cause
  caught : ∀ worker message, .unwound worker message ∈ s.history →
    s.positions[worker]? = some (.reporting (.internal (.workerPanicked message)) .unwind) ∨
      ∃ first, .reported worker (.internal (.workerPanicked message)) first ∈ s.history
  counted : ∀ worker n, .counted worker n ∈ s.history → n ≤ s.tally.finished
  unreported : s.latch.stopped = false → ∀ e ∈ s.history, e.afterReport = false
  first : ∀ cause, s.latch = ⟨true, some cause⟩ → ∃ worker, FirstReport plan s.history worker cause

section
variable {plan : Plan} {s t : Pool} {worker : Nat} {p q : Position}

theorem Attested.grows {history later : List Event} {cause : StopCause}
    (h : Attested plan history worker cause) (grows : history <:+ later) :
    Attested plan later worker cause := by
  cases cause with
  | job failure => exact ⟨h.1, grows.subset h.2⟩
  | internal error =>
    obtain ⟨message, callback, same, loud, told⟩ := h
    exact ⟨message, callback, same, loud, grows.subset told⟩

theorem FirstReport.grows {history later : List Event} {cause : StopCause}
    (h : FirstReport plan history worker cause) (grows : history <:+ later) :
    FirstReport plan later worker cause := by
  obtain ⟨after, earlier, rfl, before, attested⟩ := h
  obtain ⟨news, rfl⟩ := grows
  exact ⟨news ++ after, earlier, by simp, before, attested⟩

/-! ## What a deed notes -/

namespace Deed

variable (done : Deed plan s worker p q t) {other : Nat}
include done

theorem noted_reported {cause : StopCause} {first : Bool}
    (member : .reported other cause first ∈ t.history) : .reported other cause first ∈ s.history ∨
      other = worker ∧ ∃ aftermath, p = .reporting cause aftermath := by
  cases done with
  | reports =>
    simp only [place_history, note_history, List.mem_cons, Event.reported.injEq] at member
    obtain ⟨rfl, rfl, -⟩ | before := member
    · exact .inr ⟨rfl, _, rfl⟩
    · exact .inl before
  | reportsLate =>
    simp only [conclude_history, note_history, List.mem_append, List.mem_cons, mem_parting,
      Event.reported.injEq, reduceCtorEq, and_false, false_or] at member
    obtain ⟨rfl, rfl, -⟩ | before := member
    · exact .inr ⟨rfl, _, rfl⟩
    · exact .inl before
  | closes =>
    simp only [place_history, close_history] at member
    split at member <;> exact .inl (by simpa using member)
  | _ => exact .inl (by simpa [mem_parting] using member)

theorem noted_unwound {message : String} (member : .unwound other message ∈ t.history) :
    .unwound other message ∈ s.history ∨
      other = worker ∧ q = .reporting (.internal (.workerPanicked message)) .unwind := by
  cases done with
  | panicsAtStart | panicsAtSuccess | panicsAtFailure =>
    simp only [unwind_history, note_history, List.mem_cons, Event.unwound.injEq, reduceCtorEq,
      false_or] at member
    obtain ⟨rfl, rfl⟩ | before := member
    · exact .inr ⟨rfl, rfl⟩
    · exact .inl before
  | closes =>
    simp only [place_history, close_history] at member
    split at member <;> exact .inl (by simpa using member)
  | _ => exact .inl (by simpa [mem_parting] using member)

theorem noted_counted {n : Nat} (member : .counted other n ∈ t.history) :
    .counted other n ∈ s.history ∨ n = t.tally.finished := by
  cases done with
  | overcounts | counts | countsLast =>
    simp only [place_history, note_history, leave_history, wakeOrchestrator_history,
      List.mem_cons, Event.counted.injEq, reduceCtorEq, false_or] at member
    obtain ⟨-, rfl⟩ | before := member
    · exact .inr (by simp)
    · exact .inl before
  | closes =>
    simp only [place_history, close_history] at member
    split at member <;> exact .inl (by simpa using member)
  | _ => exact .inl (by simpa [mem_parting] using member)

/-- As long as nothing has been reported, no deed notes what follows a report. -/
theorem noted_afterReport (running : t.latch.stopped = false)
    (lament : ∀ failure, p = .lamenting failure → s.latch.stopped = true)
    (before : ∀ e ∈ s.history, e.afterReport = false) :
    ∀ e ∈ t.history, e.afterReport = false := by
  have earlier : ¬ s.latch.stopped = true := fun stopped => by
    simp [done.grows.stopped stopped] at running
  cases done with
  | reports => simp at running
  | reportsLate stopped => exact absurd stopped earlier
  | laments | panicsAtFailure => exact absurd (lament _ rfl) earlier
  | closes =>
    simp only [place_history, close_history]
    split <;> simpa using before
  | wakes => simpa [mem_parting, or_imp, forall_and] using before
  | _ => simpa using before

/-- A deed that leads to a report has noted what is going to be reported. -/
theorem attests (sound : plan.graph.Sound) (ledger : Ledger plan s) (ready : Readiness plan s)
    (standing : s.positions[worker]? = some p) {cause : StopCause} {aftermath : Aftermath}
    (arrives : q = .reporting cause aftermath) : Attested plan t.history worker cause := by
  have lawful := done.ne_breach sound ledger ready standing
  cases done with
  | rejects | overcounts | miscounts => exact absurd rfl (lawful _ _)
  | fails failed =>
    obtain ⟨rfl, -⟩ := Position.reporting.inj arrives
    obtain rfl := job_of_ofOutcome failed
    exact ⟨failed, by simp⟩
  | panicsAtStart loud | panicsAtSuccess loud | panicsAtFailure loud =>
    obtain ⟨rfl, -⟩ := Position.reporting.inj arrives
    exact ⟨_, _, rfl, loud, by simp⟩
  | @reportsLate _ after | @wakes after => cases after <;> simp [Aftermath.next] at arrives
  | _ => simp at arrives

end Deed

/-! ## The invariant -/

theorem reports_start (plan : Plan) : Reports plan (.start plan) where
  attested worker cause aftermath standing := by simp [start, List.getElem?_replicate] at standing
  reported := by simp [start]
  caught := by simp [start]
  counted := by simp [start]
  unreported := by simp [start]
  first cause set := by simp [start, Board.start] at set

namespace Reports

variable (h : Reports plan s)
include h

theorem deed_attested (sound : plan.graph.Sound) (ledger : Ledger plan s)
    (ready : Readiness plan s) (standing : s.positions[worker]? = some p)
    (done : Deed plan s worker p q t) (other : Nat) (cause : StopCause) (aftermath : Aftermath)
    (there : t.positions[other]? = some (.reporting cause aftermath)) :
    Attested plan t.history other cause := by
  by_cases here : other = worker
  · subst here
    have arrives := Option.some.inj ((done.arrives standing).symm.trans there)
    exact done.attests sound ledger ready standing arrives
  · obtain kept | ⟨-, taking⟩ := done.others standing here
    · exact (h.attested other cause aftermath (kept ▸ there)).grows done.grows.history
    · simp [there] at taking

theorem deed_reported (standing : s.positions[worker]? = some p)
    (done : Deed plan s worker p q t) (other : Nat) (cause : StopCause) (first : Bool)
    (member : .reported other cause first ∈ t.history) : Attested plan t.history other cause := by
  obtain before | ⟨rfl, aftermath, rfl⟩ := done.noted_reported member
  · exact (h.reported other cause first before).grows done.grows.history
  · exact (h.attested other cause aftermath standing).grows done.grows.history

theorem deed_caught (standing : s.positions[worker]? = some p)
    (done : Deed plan s worker p q t) (other : Nat) (message : String)
    (member : .unwound other message ∈ t.history) :
    t.positions[other]? = some (.reporting (.internal (.workerPanicked message)) .unwind) ∨
      ∃ first, .reported other (.internal (.workerPanicked message)) first ∈ t.history := by
  obtain before | ⟨rfl, rfl⟩ := done.noted_unwound member
  · obtain waits | ⟨first, reported⟩ := h.caught other message before
    · by_cases here : other = worker
      · -- the worker was about to report the panic, and now it has done so
        subst here
        obtain rfl := Option.some.inj (standing.symm.trans waits)
        cases done with
        | reports => exact .inr ⟨true, by simp⟩
        | reportsLate => exact .inr ⟨false, by simp⟩
      · obtain kept | ⟨parked, -⟩ := done.others standing here
        · exact .inl (kept.trans waits)
        · simp [waits] at parked
    · exact .inr ⟨first, done.grows.history.subset reported⟩
  · exact .inl (done.arrives standing)

theorem deed_counted (done : Deed plan s worker p q t) (other n : Nat)
    (member : .counted other n ∈ t.history) : n ≤ t.tally.finished := by
  have grows : s.tally.finished ≤ t.tally.finished := by
    obtain same | marked := done.tally
    · exact Nat.le_of_eq (congrArg Tally.finished same).symm
    · simp [marked, Tally.mark]
  obtain before | rfl := done.noted_counted member
  · exact Nat.le_trans (h.counted other n before) grows
  · exact Nat.le_refl _

theorem deed_unreported (conduct : Conduct plan s) (standing : s.positions[worker]? = some p)
    (done : Deed plan s worker p q t) (running : t.latch.stopped = false) :
    ∀ e ∈ t.history, e.afterReport = false := by
  refine done.noted_afterReport running ?_ (h.unreported ?_)
  · rintro failure rfl
    exact conduct.standing _ (List.mem_of_getElem? standing)
  · by_contra stopped
    simp [done.grows.stopped (by simpa using stopped)] at running

theorem deed_first (standing : s.positions[worker]? = some p)
    (done : Deed plan s worker p q t) (cause : StopCause) (set : t.latch = ⟨true, some cause⟩) :
    ∃ other, FirstReport plan t.history other cause := by
  by_cases stopped : s.latch.stopped = true
  · obtain ⟨other, first⟩ := h.first cause ((done.grows.latch stopped).symm.trans set)
    exact ⟨other, first.grows done.grows.history⟩
  · cases done with
    | @reports reported aftermath running =>
      obtain rfl : reported = cause := by simpa using set
      exact ⟨worker, [], s.history, rfl, h.unreported running,
        h.attested worker reported aftermath standing⟩
    | _ => exact absurd (by simpa using congrArg StopLatch.stopped set) stopped

theorem deed (sound : plan.graph.Sound) (ledger : Ledger plan s) (ready : Readiness plan s)
    (conduct : Conduct plan s) (standing : s.positions[worker]? = some p)
    (done : Deed plan s worker p q t) : Reports plan t where
  attested := h.deed_attested sound ledger ready standing done
  reported := h.deed_reported standing done
  caught := h.deed_caught standing done
  counted := h.deed_counted done
  unreported := h.deed_unreported conduct standing done
  first := h.deed_first standing done

theorem chore (crew : Crew plan s) (chore : Chore plan s t) : Reports plan t := by
  obtain ⟨news, noted, idle⟩ := chore.history
  have grows : s.history <:+ t.history := noted ▸ List.suffix_append news s.history
  have earlier : ∀ {e : Event}, e.impersonal = false → e ∈ t.history → e ∈ s.history := by
    intro e personal member
    rw [noted] at member
    exact (List.mem_append.mp member).resolve_left fun fresh =>
      Bool.false_ne_true (personal.symm.trans (idle e fresh))
  refine ⟨?_, ?_, ?_, ?_, ?_, ?_⟩
  · intro worker cause aftermath there
    obtain kept | ⟨-, taking⟩ := chore.others crew worker
    · exact (h.attested worker cause aftermath (kept ▸ there)).grows grows
    · simp [there] at taking
  · exact fun worker cause first member =>
      (h.reported worker cause first (earlier rfl member)).grows grows
  · intro worker message member
    refine (h.caught worker message (earlier rfl member)).imp ?_ ?_
    · intro waits
      obtain kept | ⟨parked | unborn, -⟩ := chore.others crew worker
      · exact kept.trans waits
      · simp [waits] at parked
      · simp [waits] at unborn
    · exact fun ⟨first, reported⟩ => ⟨first, grows.subset reported⟩
  · rw [chore.tally]
    exact fun worker n member => h.counted worker n (earlier rfl member)
  · rw [chore.latch]
    intro running e member
    by_cases impersonal : e.impersonal = true
    · cases e <;> simp_all
    · exact h.unreported running e (earlier (by simpa using impersonal) member)
  · rw [chore.latch]
    intro cause set
    obtain ⟨worker, first⟩ := h.first cause set
    exact ⟨worker, first.grows grows⟩

end Reports

theorem Reachable.reports (sound : plan.graph.Sound) (h : Reachable plan s) : Reports plan s :=
  Reachable.invariant (I := Reports plan) (reports_start plan)
    (fun reached ih standing done => ih.deed sound (reached.ledger sound)
      (reached.readiness sound) (reached.conduct sound) standing done)
    (fun reached ih chore => ih.chore (crew reached) chore) h

/-! ## The checks of the scheduler -/

/-- What the scheduler checks of itself in the course of a run. -/
structure Intact (plan : Plan) (jobs : List JobId) (s : Pool) : Prop where
  /-- A job that was taken from the queue is one of the jobs. -/
  listed : ∀ job ∈ s.held, job ∈ jobs
  /-- No more jobs are counted as finished than there are. -/
  counted : ∀ worker n, .counted worker n ∈ s.history → n ≤ jobs.length
  /-- A job whose dependents are to be counted down finds a counter above zero for each of them. -/
  counters : ∀ (worker : Nat) job, s.positions[worker]? = some (.releasing job) →
    (∀ v ∈ plan.graph.dependents job, ∃ n, s.countdown.pending v = some (n + 1)) ∧
      ∃ ready, s.countdown.released job = .ok ready
  /-- No broken rule is reported. -/
  reported : ∀ worker cause first, .reported worker cause first ∈ s.history →
    ∀ reason, cause ≠ .internal (.invariant reason)
  /-- When the run has returned, every worker has left its loop, and it has reported the panic that
  ended the loop, if one did. -/
  caught : ∀ result, s.stage = .returned result → (∀ p ∈ s.positions, isGone p = true) ∧
    ∀ worker message, .unwound worker message ∈ s.history →
      ∃ first, .reported worker (.internal (.workerPanicked message)) first ∈ s.history
  /-- When the run has returned and nothing has stopped it, every job is finished. -/
  finished : ∀ result, s.stage = .returned result → s.latch.held = none →
    s.tally.finished = jobs.length

theorem Attested.ne_invariant {history : List Event} {cause : StopCause}
    (h : Attested plan history worker cause) (reason : String) :
    cause ≠ .internal (.invariant reason) := by
  rintro rfl
  obtain ⟨message, callback, same, -⟩ := h
  simp at same

theorem Readiness.pending_pos (ready : Readiness plan s) (sound : plan.graph.Sound)
    (ledger : Ledger plan s) {job : JobId}
    (standing : s.positions[worker]? = some (.releasing job)) {v : JobId}
    (dependent : v ∈ plan.graph.dependents job) : ∃ n, s.countdown.pending v = some (n + 1) := by
  have listed : v ∈ s.countdown.graph.jobs :=
    ready.graph.symm ▸ sound.mem_jobs_of_dependent dependent
  have pending := ready.counts.pending v listed
  rw [ready.graph, Countdown.countP_not_mem_cons (sound.nodup_dependencies v)
    (Graph.mem_dependents.mp dependent) (ledger.not_released ready.distinct standing)] at pending
  exact ⟨_, pending⟩

theorem Ledger.finished_le (ledger : Ledger plan s) (ready : Readiness plan s) :
    s.tally.finished ≤ plan.graph.jobs.length := by
  have counted := ledger.finished
  have bounded := ready.completed_length_le ledger
  omega

theorem Reachable.intact (sound : plan.graph.Sound) (h : Reachable plan s) :
    Intact plan plan.graph.jobs s := by
  have ledger := h.ledger sound
  have ready := h.readiness sound
  have conduct := h.conduct sound
  have reports := h.reports sound
  refine ⟨?_, ?_, ?_, ?_, ?_, ?_⟩
  · exact fun job held => ready.listed (ledger.held_readied held)
  · exact fun worker n member =>
      Nat.le_trans (reports.counted worker n member) (ledger.finished_le ready)
  · intro worker job standing
    have fresh := ledger.not_released ready.distinct standing
    exact ⟨fun v dependent => ready.pending_pos sound ledger standing dependent,
      _, (ready.report sound fresh).1⟩
  · exact fun worker cause first member => (reports.reported worker cause first member).ne_invariant
  · intro result at_
    have alone := (conduct.returned at_).2.1
    refine ⟨alone, fun worker message member => ?_⟩
    refine (reports.caught worker message member).resolve_left fun standing => ?_
    simpa [isGone] using alone _ (List.mem_of_getElem? standing)
  · intro result at_ none
    obtain ⟨full | stopped, -, -⟩ := conduct.returned at_
    · have total := ledger.total
      have bounded := ledger.finished_le ready
      simp only [Tally.complete, decide_eq_true_eq] at full
      omega
    · obtain idle | ⟨cause, set, -⟩ := conduct.latch
      · simp [idle] at stopped
      · simp [set] at none

end

section
variable {plan : Plan} {jobs : List JobId} {edges : List Edge}

/-- Whatever the jobs and the observer do, the checks of the scheduler find nothing: there is a job
to begin with, every state is intact, and no run returns a broken rule. -/
theorem guards_find_nothing (built : Graph.build jobs edges = .ok plan.graph) :
    (jobs ≠ [] → plan.graph.roots ≠ []) ∧ (∀ s, Reachable plan s → Intact plan jobs s) ∧
      ∀ result, plan.Returns result → ∀ reason, result ≠ .error (.invariant reason) := by
  have sound := Graph.sound_of_build built
  obtain rfl := Graph.jobs_of_build built
  refine ⟨sound.roots_ne_nil, fun s reached => reached.intact sound, ?_⟩
  intro result returns reason broken
  by_cases empty : plan.graph.jobs = []
  · cases returns with
    | idle => simp at broken
    | rootless nonempty | pool nonempty => exact nonempty empty
  · obtain ⟨s, reached, rfl, ⟨idle, full⟩ | ⟨cause, set, legit⟩⟩ := returns.settled sound empty
    · simp [result, idle, full] at broken
    · cases cause with
      | job failure => simp [result, set] at broken
      | internal error =>
        obtain ⟨message, -, rfl, -⟩ := legit
        simp [result, set] at broken

/-- Two workers run a diamond, and the observer panics when it is told that the second job starts. -/
def interrupted : Plan :=
  { Plan.diamond 2 .success with
    observer := fun callback => if callback = .started ⟨"2"⟩ then some "lost" else none }

/-- The panic of the observer ends the run after the first job, and no rule is broken by it. -/
theorem interrupted_finds_nothing :
    (finalState interrupted {}).stage = .returned (.error (.workerPanicked "lost")) ∧
      (finalState interrupted {}).completed = [⟨"1"⟩] ∧
      Intact interrupted Graph.diamond.jobs (finalState interrupted {}) := by
  obtain ⟨-, intact, -⟩ := @guards_find_nothing interrupted _ _ Graph.build_diamond
  exact ⟨by rfl, by rfl, intact _ (reachable_finalState interrupted {})⟩

end

end Pool

end Precedence

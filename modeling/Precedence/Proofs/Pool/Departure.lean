import Precedence.Proofs.Pool.Report
/-!
# How the workers leave

The exit of a worker tells what it has found (`Warrants`): a closed queue without jobs, a run that
was stopped, or that it counted the last job. A stop costs the run a job that was started, so no run
is both stopped and complete (`unfinished_of_stopped`). The tally reaches its total once, hence just
one worker of a run that succeeds leaves as the one that counted the last job; and whoever stops a
run is on its way to leave as failed (`Position.doomed`).
-/

namespace Precedence

namespace Position

/-- How a worker has left, if it has. -/
@[simp] def exits : Position → List Exit
  | .gone exit => [exit]
  | _ => []

/-- Whether a worker is going to leave as failed, or has done so. -/
@[simp] def doomed : Position → Bool
  | .reporting _ _ | .closing _ | .broadcasting _ | .waking _ | .lamenting _ | .gone .failed => true
  | _ => false

end Position

namespace Pool

/-- How those workers have left that are gone. -/
def exits (s : Pool) : List Exit := s.positions.flatMap Position.exits

/-- What a worker finds when it leaves in this way. -/
def Warrants (s : Pool) : Exit → Prop
  | .drained => s.backlog.closed = true ∧ s.backlog.waiting = []
  | .stopped | .failed => s.latch.stopped = true
  | .completedLast => s.tally.finished + 1 = s.tally.total

section
variable {plan : Plan} {s t : Pool} {worker : Nat} {p q : Position} {exit : Exit}

theorem mem_exits : exit ∈ s.exits ↔ .gone exit ∈ s.positions := by
  rw [exits, List.mem_flatMap]
  constructor
  · rintro ⟨p, member, left⟩
    cases p with
    | gone other =>
      obtain rfl := List.mem_singleton.mp left
      exact member
    | _ => simp at left
  · exact fun member => ⟨_, member, List.mem_singleton_self exit⟩

theorem count_exits : s.exits.count exit = census (fun p => p.exits.count exit) s.positions := by
  simp [exits, census, List.count_flatMap, Function.comp_def]

/-- Once every worker is gone, there is an exit for each. -/
theorem length_exits (alone : ∀ p ∈ s.positions, isGone p = true) :
    s.exits.length = s.positions.length := by
  unfold exits
  generalize s.positions = positions at alone
  induction positions with
  | nil => rfl
  | cons p rest ih =>
    have left := alone p List.mem_cons_self
    have others := ih fun q member => alone q (List.mem_cons_of_mem p member)
    cases p with
    | gone exit => simp [others]
    | _ => simp [isGone] at left

/-! ## A run is not both stopped and complete -/

/-- What stops a run is that a started job did not succeed. -/
theorem Legit.spoils {cause : StopCause} (legit : Legit plan s.history cause) :
    s.spoiled plan ≠ [] := by
  cases cause with
  | job failure =>
    obtain ⟨failed, worker, happened⟩ := legit
    have bad := Deed.outcome_ne_success failed
    exact List.ne_nil_of_mem (a := failure.job) (mem_gather.mpr ⟨_, happened, by simp [bad]⟩)
  | internal error =>
    obtain ⟨message, callback, -, loud, other, worker, told⟩ := legit
    cases callback with
    | failed failure => exact absurd rfl (other failure)
    | started job | succeeded job =>
      exact List.ne_nil_of_mem (a := job) (mem_gather.mpr ⟨_, told, by simp [loud]⟩)

/-- A started job that does not succeed is missing in the tally. -/
theorem Ledger.unfinished (ledger : Ledger plan s) (ready : Readiness plan s)
    (lost : s.spoiled plan ≠ []) : s.tally.finished < s.tally.total := by
  have counted := ledger.finished
  have total := ledger.total
  have parts := ledger.started.length_eq
  have some := List.length_pos_of_ne_nil lost
  have bound := List.Nodup.length_le_of_subset (ledger.nodup_started ready.distinct)
    (ready.started_listed ledger)
  simp only [List.length_append] at parts
  omega

theorem Reachable.unfinished_of_stopped (sound : plan.graph.Sound) (h : Reachable plan s)
    (stopped : s.latch.stopped = true) : s.tally.finished < s.tally.total := by
  obtain idle | ⟨cause, -, legit⟩ := (h.conduct sound).latch
  · simp [idle] at stopped
  · exact (h.ledger sound).unfinished (h.readiness sound) legit.spoils

/-! ## Who counts the last job -/

namespace Deed

theorem exits_nil (done : Deed plan s worker p q t) : p.exits = [] := by
  cases done <;> rfl

/-- Either a deed counts the last job and its worker leaves for that, or neither happens. -/
theorem last_iff (ledger : Ledger plan s) (ready : Readiness plan s)
    (standing : s.positions[worker]? = some p) (done : Deed plan s worker p q t) :
    (q = .gone .completedLast ∧ s.tally.finished + 1 = s.tally.total ∧
        t.tally.finished = t.tally.total) ∨
      q.exits.count .completedLast = 0 ∧
        (t.tally.finished = t.tally.total ↔ s.tally.finished = s.tally.total) := by
  cases done with
  | countsLast free last => exact .inl ⟨rfl, last, by simpa [Tally.mark] using last⟩
  | overcounts free beyond =>
    have room := ledger.room ready standing
    omega
  | counts free below =>
    refine .inr ⟨by simp, ?_⟩
    simp only [place_toBoard, note_toBoard, Tally.mark]
    omega
  | @reportsLate _ aftermath | @wakes aftermath =>
    exact .inr ⟨by cases aftermath <;> simp [Aftermath.next], by simp⟩
  | _ => exact .inr ⟨by simp, by simp⟩

end Deed

/-- The tally has reached its total if and only if some worker has left for that, and then just one
has. -/
theorem Reachable.count_completedLast (sound : plan.graph.Sound)
    (nonempty : plan.graph.jobs ≠ []) (h : Reachable plan s) :
    s.exits.count .completedLast = if s.tally.finished = s.tally.total then 1 else 0 := by
  refine Reachable.invariant (I := fun s =>
    s.exits.count .completedLast = if s.tally.finished = s.tally.total then 1 else 0) ?_ ?_ ?_ h
  · have some := List.length_pos_of_ne_nil nonempty
    have differ : (0 : Nat) ≠ plan.graph.jobs.length := by omega
    have nobody : (Pool.start plan).exits = [] :=
      List.flatMap_eq_nil_iff.mpr fun p member => List.eq_of_mem_replicate member ▸ rfl
    rw [nobody, List.count_nil]
    exact (if_neg differ).symm
  · intro s t worker p q reached ih standing done
    have moved := done.census standing (f := fun p => p.exits.count .completedLast) rfl
    rw [← count_exits, ← count_exits, done.exits_nil] at moved
    obtain ⟨rfl, last, full⟩ | ⟨other, same⟩ :=
      done.last_iff (reached.ledger sound) (reached.readiness sound) standing
    · have below : s.tally.finished ≠ s.tally.total := by omega
      rw [if_neg below] at ih
      rw [if_pos full]
      simpa [ih] using moved
    · simp only [same, ← ih]
      simpa only [other, List.count_nil, Nat.add_zero] using moved
  · intro s t reached ih chore
    have kept : t.exits = s.exits := by
      have same := chore.map_positions (crew reached) (f := Position.exits) rfl rfl
      rw [exits, exits, List.flatMap_def, List.flatMap_def, same]
    rw [kept, chore.tally, ih]

/-! ## Who stops the run -/

/-- Whoever is going to leave as failed is so until it has. -/
theorem Deed.doomed (done : Deed plan s worker p q t) (bad : p.doomed = true) :
    q.doomed = true := by
  cases done with
  | @reportsLate _ aftermath | @wakes aftermath => cases aftermath <;> rfl
  | reports | closes | broadcasts | laments | panicsAtFailure => rfl
  | _ => simp at bad

/-- In a run that was stopped, some worker is to blame. -/
theorem Reachable.doomed_of_stopped (h : Reachable plan s) (stopped : s.latch.stopped = true) :
    ∃ p ∈ s.positions, p.doomed = true := by
  refine Reachable.invariant (I := fun s => s.latch.stopped = true →
    ∃ p ∈ s.positions, p.doomed = true) ?_ ?_ ?_ h stopped
  · simp [Pool.start, Board.start]
  · intro s t worker p q _ ih standing done stopped
    have arrived := List.mem_of_getElem? (done.arrives standing)
    by_cases before : s.latch.stopped = true
    · obtain ⟨r, member, bad⟩ := ih before
      by_cases here : r = p
      · exact ⟨q, arrived, done.doomed (here ▸ bad)⟩
      · have awake : r ≠ .parked := by
          rintro rfl
          simp at bad
        exact ⟨r, done.stays standing member here awake, bad⟩
    · cases done with
      | reports => exact ⟨_, arrived, rfl⟩
      | _ => exact absurd (by simpa using stopped) before
  · intro s t reached ih chore stopped
    rw [chore.latch] at stopped
    obtain ⟨r, member, bad⟩ := ih stopped
    have idle : r ≠ .parked ∧ r ≠ .unborn := by
      constructor <;> rintro rfl <;> simp at bad
    exact ⟨r, chore.stays (crew reached) member idle.1 idle.2, bad⟩

/-! ## Why a worker leaves -/

theorem Deed.warrants (conduct : Conduct plan s) (standing : s.positions[worker]? = some p)
    (done : Deed plan s worker p q t) (leaves : q = .gone exit) : s.Warrants exit := by
  have before := conduct.standing p (List.mem_of_getElem? standing)
  cases done with
  | drains empty closed =>
    obtain rfl := Position.gone.inj leaves
    exact ⟨closed, empty⟩
  | turnsAway stopped =>
    obtain rfl := Position.gone.inj leaves
    exact stopped
  | countsLast free last =>
    obtain rfl := Position.gone.inj leaves
    exact last
  | @reportsLate _ aftermath stopped =>
    cases aftermath with
    | notify => simp [Aftermath.next] at leaves
    | leave | unwind =>
      obtain rfl := Position.gone.inj leaves
      exact stopped
  | @wakes aftermath =>
    cases aftermath with
    | notify => simp [Aftermath.next] at leaves
    | leave | unwind =>
      obtain rfl := Position.gone.inj leaves
      exact before.1
  | laments =>
    obtain rfl := Position.gone.inj leaves
    exact before
  | _ => simp at leaves

/-- A worker that is gone after a step and was not before has found what its exit tells. -/
theorem Step.warrants (conduct : Conduct plan s) (crew : Crew plan s) (step : Step plan s t)
    (before : s.positions[worker]? ≠ some (.gone exit))
    (after : t.positions[worker]? = some (.gone exit)) : s.Warrants exit := by
  obtain ⟨other, p, q, standing, done⟩ | done := deed_or_duty step
  · by_cases here : worker = other
    · subst here
      have arrives := Option.some.inj ((done.arrives standing).symm.trans after)
      exact done.warrants conduct standing arrives
    · obtain kept | ⟨-, taking⟩ := done.others standing here
      · exact absurd (kept.symm.trans after) before
      · simp [after] at taking
  · obtain kept | ⟨-, taking⟩ := (Chore.duty done).others crew worker
    · exact absurd (kept.symm.trans after) before
    · simp [after] at taking

/-! ## When the run has returned -/

/-- How the workers have left a run that returned `result`. -/
structure Departed (plan : Plan) (s : Pool) (result : Except Error Verdict) : Prop where
  everyone : s.exits.length = plan.workers
  succeeded : (∃ report, result = .ok (.succeeded report)) → s.exits.count .completedLast = 1 ∧
    ∀ exit ∈ s.exits, exit = .completedLast ∨ exit = .drained
  stopped : (∀ report, result ≠ .ok (.succeeded report)) →
    .completedLast ∉ s.exits ∧ .failed ∈ s.exits

theorem Reachable.departed (sound : plan.graph.Sound) (nonempty : plan.graph.jobs ≠ [])
    (h : Reachable plan s) {result : Except Error Verdict} (ended : s.stage = .returned result) :
    Departed plan s result := by
  have conduct := h.conduct sound
  have last := h.count_completedLast sound nonempty
  obtain ⟨settled, alone, same⟩ := conduct.returned ended
  refine ⟨(length_exits alone).trans (crew h).size, ?_, ?_⟩
  · rintro ⟨report, success⟩
    have idle : s.latch = {} := by
      refine conduct.latch.resolve_right ?_
      rintro ⟨cause, set, -⟩
      cases cause <;> simp [same, Pool.result, set] at success
    have full : s.tally.complete = true := settled.resolve_right (by simp [idle])
    have counted := (h.intact sound).finished result ended (by simp [idle])
    rw [if_pos (counted.trans (h.ledger sound).total.symm)] at last
    refine ⟨last, fun exit member => ?_⟩
    have standing := conduct.standing _ (mem_exits.mp member)
    cases exit with
    | drained => exact .inr rfl
    | completedLast => exact .inl rfl
    | stopped | failed => simp [Standing, idle] at standing
  · intro flawed
    have stopped : s.latch.stopped = true := by
      by_contra running
      have full := settled.resolve_right running
      obtain idle | ⟨cause, set, -⟩ := conduct.latch
      · have success : s.result plan = .ok (.succeeded ⟨s.completed, plan.workers,
            s.countdown.outstanding, s.backlog.accepted⟩) := by simp [Pool.result, idle, full]
        exact flawed _ (same.trans success)
      · simp [set] at running
    have below := h.unfinished_of_stopped sound stopped
    rw [if_neg (Nat.ne_of_lt below)] at last
    refine ⟨List.count_eq_zero.mp last, ?_⟩
    obtain ⟨p, member, bad⟩ := h.doomed_of_stopped stopped
    have left := alone p member
    cases p with
    | gone exit =>
      cases exit with
      | failed => exact mem_exits.mpr member
      | _ => simp at bad
    | _ => simp [isGone] at left

end

section
variable {plan : Plan} {jobs : List JobId} {edges : List Edge}

/-- Whatever the jobs and the observer do, a run is never both stopped and complete. A worker that
leaves has found what its exit tells. If the run succeeds, one worker has counted the last job and
the others have found the queue closed and empty; if it does not, nobody has counted the last job
and somebody has failed. -/
theorem exits_tell_how_run_ended (built : Graph.build jobs edges = .ok plan.graph)
    (nonempty : jobs ≠ []) :
    (∀ s, Reachable plan s → ¬ (s.latch.stopped = true ∧ s.tally.finished = jobs.length)) ∧
      (∀ s t, Reachable plan s → Step plan s t → ∀ (worker : Nat) exit,
        s.positions[worker]? ≠ some (.gone exit) → t.positions[worker]? = some (.gone exit) →
        s.Warrants exit) ∧
      ∀ s result, Reachable plan s → s.stage = .returned result → Departed plan s result := by
  have sound := Graph.sound_of_build built
  obtain rfl := Graph.jobs_of_build built
  refine ⟨?_, ?_, ?_⟩
  · rintro s reached ⟨stopped, full⟩
    have below := reached.unfinished_of_stopped sound stopped
    rw [(reached.ledger sound).total] at below
    omega
  · intro s t reached step worker exit before after
    exact step.warrants (reached.conduct sound) (crew reached) before after
  · exact fun s result reached ended => reached.departed sound nonempty ended

/-- Two workers run a diamond whose second job panics: one of them fails, and the other is turned
away with the third job in its hands. Three workers complete the diamond, and one of them counts the
last job. -/
theorem diamond_exits :
    let failed : Pool := finalState (.diamond 2 (.panic "boom")) {}
    let report : FailureReport :=
      ⟨.ofPanic ⟨"2"⟩ "boom", [⟨"1"⟩], [⟨"3"⟩, ⟨"4"⟩], [⟨"4"⟩], 2⟩
    let complete : Pool := finalState (.diamond 3 .success) {}
    let success : SuccessReport := ⟨Graph.diamond.jobs, 3, 0, 4⟩
    failed.exits = [.stopped, .failed] ∧
      Departed (.diamond 2 (.panic "boom")) failed (.ok (.failed report)) ∧
      complete.exits = [.completedLast, .drained, .drained] ∧
      Departed (.diamond 3 .success) complete (.ok (.succeeded success)) := by
  intro failed report complete success
  have stopped : failed.stage = .returned (.ok (.failed
      ⟨.ofPanic ⟨"2"⟩ "boom", [⟨"1"⟩], [⟨"3"⟩, ⟨"4"⟩], Graph.diamond.downstream ⟨"2"⟩, 2⟩)) := by
    rfl
  rw [Graph.downstream_diamond] at stopped
  have returned : complete.stage = .returned (.ok (.succeeded success)) := by rfl
  have nonempty : Graph.diamond.jobs ≠ [] := by decide
  obtain ⟨-, -, departed⟩ := @exits_tell_how_run_ended (.diamond 2 (.panic "boom")) _ _
    Graph.build_diamond nonempty
  obtain ⟨-, -, departed'⟩ := @exits_tell_how_run_ended (.diamond 3 .success) _ _
    Graph.build_diamond nonempty
  exact ⟨by rfl, departed _ _ (reachable_finalState _ {}) stopped, by rfl,
    departed' _ _ (reachable_finalState _ {}) returned⟩

end

end Pool

end Precedence

import Precedence.Proofs.BreadthFirst
import Precedence.Proofs.Worker
/-!
# The order in which a lone worker runs jobs

A worker that has a fresh board to itself runs the jobs of an accepted graph in the breadth-first
order, up to the first one that fails. At the head of the loop, what it has run and what waits in
the queue are together what is ready (`Underway`). So a round takes up the next job of the order
(`Underway.turn_eq`), and if that neither fails nor is the last one, it comes back to the head with
one more job done (`TakenUp.complete_again`). After a failure the queue is closed and the run is
stopped, and further loops only empty the queue (`loops_of_stopped`).
-/

namespace Precedence.Bench

/-- The board before a run. -/
def fresh (graph : Graph) : Bench := { toBoard := .start graph }

/-- Jobs that do nothing but end as they are told. -/
def bodies (graph : Graph) (outcome : JobId → Outcome) (job : JobId) : Option Body :=
  if job ∈ graph.jobs then some { outcome := outcome job } else none

/-- The jobs of `done` are completed and counted, and nothing has failed. -/
structure Unbroken (graph : Graph) (done : List JobId) (b : Bench) : Prop where
  opened : b.backlog.closed = false
  countdown : b.countdown = (Countdown.start graph).finishAll done
  tally : b.tally = ⟨graph.jobs.length, done.length⟩
  latch : b.latch = {}
  completed : b.completed = done

/-- The board at the head of the loop: what came out of the queue is done. -/
structure Underway (graph : Graph) (done : List JobId) (b : Bench) : Prop
    extends Unbroken graph done b where
  waiting : done ++ b.backlog.waiting = graph.readyAfter done
  started : b.started = done

/-- The board with the next job taken up. -/
structure TakenUp (graph : Graph) (done : List JobId) (job : JobId) (b : Bench) : Prop
    extends Unbroken graph done b where
  waiting : done ++ job :: b.backlog.waiting = graph.readyAfter done
  started : b.started = done ++ [job]

/-- The board of a worker that has run the jobs of `before` and then `job`, which failed. -/
structure FailedOn (graph : Graph) (outcome : JobId → Outcome) (before : List JobId) (job : JobId)
    (b : Bench) : Prop where
  waiting : before ++ job :: b.backlog.waiting = graph.readyAfter before
  fine : ∀ u ∈ before, outcome u = .success
  started : b.started = before ++ [job]
  completed : b.completed = before
  held : ∃ failure, JobFailure.ofOutcome? job (outcome job) = some failure ∧
    b.latch = ⟨true, some (.job failure)⟩
  closed : b.backlog.closed = true

section
variable {graph : Graph} {outcome : JobId → Outcome} {done order rest : List JobId} {job : JobId}
  {b : Bench}

theorem underway_fresh (graph : Graph) : Underway graph [] (fresh graph) := by
  have queue : (fresh graph).backlog = ⟨graph.roots, false, graph.roots.length⟩ := by
    simp [fresh, Board.start, Backlog.pushAll_of_open]
  refine ⟨⟨?_, rfl, rfl, rfl, rfl⟩, ?_, rfl⟩
  · rw [queue]
  · rw [queue, List.nil_append, Graph.readyAfter_nil]

/-! ## One round -/

section
variable (sound : graph.Sound) (perm : order.Perm graph.jobs)
  (full : graph.readyAfter order = order)
include sound perm full

/-- The next job of the order is the first one in the queue. -/
theorem Underway.next (under : Underway graph done b) (split : order = done ++ job :: rest) :
    ∃ more, b.backlog.waiting = job :: more := by
  have once : (done ++ job :: rest).Nodup := split ▸ perm.nodup_iff.mpr sound.jobs_nodup
  have new := Countdown.not_mem_of_nodup_append once
  have listed : job ∈ graph.jobs := perm.mem_iff.mp (split ▸ by simp)
  have grows : graph.readyAfter done <+: order := by
    rw [← full]
    exact graph.readyAfter_prefix ⟨_, split.symm⟩
  rw [← under.waiting, split, List.prefix_append_right_inj] at grows
  cases waits : b.backlog.waiting with
  | nil =>
    have dry : graph.readyAfter done ⊆ done := by simp [← under.waiting, waits]
    have all := Graph.jobs_subset_of_readyAfter_subset sound (List.nodup_append'.mp once).1 dry
    exact absurd (all listed) new
  | cons first more =>
    obtain ⟨same, -⟩ := List.cons_prefix_cons.mp (waits ▸ grows)
    exact ⟨more, by rw [same]⟩

/-- A round takes up the next job, and how it goes on depends on how the body ends. -/
theorem Underway.turn_eq (under : Underway graph done b) (split : order = done ++ job :: rest)
    (outcome : JobId → Outcome) (worker : Nat) : ∃ taken, TakenUp graph done job taken ∧
      (∀ failure, JobFailure.ofOutcome? job (outcome job) = some failure →
        b.turn (bodies graph outcome) worker =
          .leave .failed ((taken.fail (.job failure)).see (.failed failure.detached))) ∧
      (outcome job = .success →
        b.turn (bodies graph outcome) worker = (taken.see (.succeeded job)).complete job) := by
  obtain ⟨more, waits⟩ := under.next sound perm full split
  have listed : job ∈ graph.jobs := perm.mem_iff.mp (split ▸ by simp)
  have running : b.latch.stopped = false := by rw [under.latch]
  have waiting := under.waiting
  rw [waits] at waiting
  refine ⟨{ b with backlog := { b.backlog with waiting := more } }.execute worker job [],
    ?_, fun failure failed => ?_, fun fine => ?_⟩
  · have same : Unbroken graph done
        ({ b with backlog := { b.backlog with waiting := more } }.execute worker job []) :=
      ⟨under.opened, under.countdown, under.tally, under.latch, under.completed⟩
    exact ⟨same, waiting, congrArg (· ++ [job]) under.started⟩
  · simp [turn, Backlog.take, waits, running, bodies, listed, failed]
  · simp [turn, Backlog.take, waits, running, bodies, listed, fine, JobFailure.ofOutcome?]

end

/-- A job that fails stops the run and closes the queue. -/
theorem TakenUp.failedOn (taken : TakenUp graph done job b) {failure : JobFailure}
    (fine : ∀ u ∈ done, outcome u = .success)
    (failed : JobFailure.ofOutcome? job (outcome job) = some failure) (sighting : Sighting) :
    FailedOn graph outcome done job ((b.fail (.job failure)).see sighting) := by
  have reported : b.fail (.job failure) = { b with
      latch := ⟨true, some (.job failure)⟩, backlog := b.backlog.close } := by
    simp [fail, taken.latch, StopLatch.report]
  rw [reported]
  exact ⟨taken.waiting, fine, taken.started, taken.completed, ⟨failure, failed, rfl⟩, rfl⟩

/-- The last job ends the loop. -/
theorem TakenUp.complete_last (taken : TakenUp graph done job b)
    (last : graph.jobs.length = done.length + 1) (sighting : Sighting) :
    ∃ after, (b.see sighting).complete job = .leave .completedLast after ∧
      after.started = done ++ [job] ∧ after.completed = done ++ [job] := by
  refine ⟨{ b.see sighting with completed := b.completed ++ [job], tally := b.tally.mark }, ?_,
    taken.started, congrArg (· ++ [job]) taken.completed⟩
  simp [complete, see, taken.tally, Tally.mark, last]

/-- A job before the last one releases what is ready once it is done. -/
theorem TakenUp.complete_again (taken : TakenUp graph done job b) (sound : graph.Sound)
    (once : (done ++ [job]).Nodup) (more : done.length + 1 < graph.jobs.length)
    (sighting : Sighting) : ∃ after, (b.see sighting).complete job = .again after ∧
      Underway graph (done ++ [job]) after := by
  have released : b.countdown.released job = .ok _ :=
    taken.countdown ▸ Countdown.released_finishAll sound (List.nodup_append'.mp once).1
      (Countdown.not_mem_of_nodup_append once)
  simp only [complete, see, taken.tally, Tally.mark, if_neg (Nat.lt_asymm more),
    if_neg (Nat.ne_of_lt more), released, offer, taken.latch, Bool.false_eq_true, if_false,
    Backlog.pushAll_of_open taken.opened]
  refine ⟨_, rfl, ⟨taken.opened, ?_, ?_, rfl, ?_⟩, ?_, taken.started⟩
  · simp [taken.countdown, Countdown.finishAll]
  · simp
  · simp [taken.completed]
  · -- what the report releases goes behind what waits
    rw [Graph.readyAfter_concat sound once, ← taken.waiting]
    simp

/-! ## The loop -/

/-- From the head of the loop on, the rest of the order is run, up to the first job that fails. By
induction on that rest: what was run so far is done, and nothing of it has failed. -/
theorem Underway.loop_eq (under : Underway graph done b) (sound : graph.Sound)
    (perm : order.Perm graph.jobs) (full : graph.readyAfter order = order)
    (split : order = done ++ rest) (nonempty : rest ≠ [])
    (fine : ∀ u ∈ done, outcome u = .success) (worker : Nat) :
    (∀ u ∈ order, outcome u = .success) ∧ (∃ after,
      b.loop (bodies graph outcome) worker = some (.completedLast, after) ∧
        after.started = order ∧ after.completed = order) ∨
    ∃ before job later after, order = before ++ job :: later ∧
      b.loop (bodies graph outcome) worker = some (.failed, after) ∧
        FailedOn graph outcome before job after := by
  induction rest generalizing done b with
  | nil => exact absurd rfl nonempty
  | cons job rest ih =>
    obtain ⟨taken, up, breaks, goes⟩ := under.turn_eq sound perm full split outcome worker
    rw [Bench.loop_eq]
    cases failed : JobFailure.ofOutcome? job (outcome job) with
    | some failure =>
      rw [breaks failure failed]
      exact .inr ⟨done, job, rest, _, split, rfl, up.failedOn fine failed _⟩
    | none =>
      have success := JobFailure.ofOutcome?_eq_none.mp failed
      have all : ∀ u ∈ done ++ [job], outcome u = .success := by
        intro u member
        rcases List.mem_append.mp member with before | here
        · exact fine u before
        · exact List.mem_singleton.mp here ▸ success
      rw [goes success]
      have total : graph.jobs.length = done.length + 1 + rest.length := by
        rw [← perm.length_eq, split, List.length_append, List.length_cons]
        omega
      rw [List.append_cons] at split
      by_cases last : rest = []
      · subst last
        rw [List.append_nil] at split
        obtain ⟨after, ends, started, completed⟩ := up.complete_last total (.succeeded job)
        rw [ends]
        exact .inl ⟨split ▸ all, after, rfl, split ▸ started, split ▸ completed⟩
      · have once : (done ++ [job]).Nodup := by
          have distinct := perm.nodup_iff.mpr sound.jobs_nodup
          exact (List.nodup_append'.mp (split ▸ distinct)).1
        have more : done.length + 1 < graph.jobs.length := by
          have := List.length_pos_iff.mpr last
          omega
        obtain ⟨after, again, under'⟩ := up.complete_again sound once more (.succeeded job)
        rw [again]
        exact ih under' split last all

/-! ## After a failure -/

/-- Once the run is stopped and the queue closed, workers come for what is left in the queue and are
turned away, or find it empty. -/
theorem loops_of_stopped (table : JobId → Option Body) (workers : List Nat)
    (stopped : b.latch.stopped = true) (closed : b.backlog.closed = true) :
    b.loops table workers =
      (List.replicate (min workers.length b.backlog.waiting.length) (some .stopped) ++
        List.replicate (workers.length - b.backlog.waiting.length) (some .drained),
      { b with backlog := { b.backlog with
          waiting := b.backlog.waiting.drop workers.length } }) := by
  induction workers generalizing b with
  | nil => simp [loops]
  | cons worker rest ih =>
    cases waits : b.backlog.waiting with
    | nil =>
      have ended : b.backlog.take = .ended := by simp [Backlog.take, waits, closed]
      have looped : b.loop table worker = some (.drained, b) := by simp [loop_eq, turn, ended]
      simp only [loops, looped, ih stopped closed, waits]
      simp [List.replicate_succ]
    | cons job more =>
      have took : b.backlog.take = .job job { b.backlog with waiting := more } := by
        simp [Backlog.take, waits]
      have looped : b.loop table worker =
          some (.stopped, { b with backlog := { b.backlog with waiting := more } }) := by
        simp [loop_eq, turn, took, stopped]
      have later := ih (b := { b with backlog := { b.backlog with waiting := more } })
        stopped closed
      simp only [loops, looped, later]
      simp [List.replicate_succ]

/-- A worker that has a fresh board to itself runs the jobs of an accepted graph in the one order in
which the roots come first and other jobs in the order of their last dependencies. It stops at the
first job that fails, and then no worker starts another one: each takes a job that was left in the
queue and is turned away, until there is none. -/
theorem lone_worker_runs_breadth_first {jobs : List JobId} {edges : List Edge} {graph : Graph}
    (built : Graph.build jobs edges = .ok graph) (nonempty : jobs ≠ [])
    (outcome : JobId → Outcome) (worker : Nat) :
    ∃ order, (∀ other, graph.BreadthFirst other ↔ other = order) ∧
      ((∀ job ∈ jobs, outcome job = .success) → ∃ after,
        (fresh graph).loop (bodies graph outcome) worker = some (.completedLast, after) ∧
          after.started = order ∧ after.completed = order) ∧
      ((∃ job ∈ jobs, outcome job ≠ .success) → ∃ before job later after,
        order = before ++ job :: later ∧
          (fresh graph).loop (bodies graph outcome) worker = some (.failed, after) ∧
          FailedOn graph outcome before job after ∧
          ∀ workers, ∃ final, after.loops (bodies graph outcome) workers =
            (List.replicate (min workers.length after.backlog.waiting.length) (some .stopped) ++
              List.replicate (workers.length - after.backlog.waiting.length) (some .drained),
            final) ∧ final.started = after.started) := by
  have sound := Graph.sound_of_build built
  obtain rfl := Graph.jobs_of_build built
  obtain ⟨perm, full⟩ := (Graph.readyAfter_eq_iff sound).mpr rfl
  have some_order : graph.generations graph.jobs.length ≠ [] := fun none =>
    nonempty (List.Perm.nil_eq (none ▸ perm)).symm
  have fine : ∀ u ∈ ([] : List JobId), outcome u = .success := by simp
  have ran := (underway_fresh graph).loop_eq sound perm full rfl some_order fine worker
  refine ⟨_, fun other => Graph.breadthFirst_iff_eq sound, fun fine => ?_, ?_⟩
  · rcases ran with ⟨-, completes⟩ | ⟨before, job, later, after, split, -, fails⟩
    · exact completes
    · obtain ⟨failure, failed, -⟩ := fails.held
      have listed : job ∈ graph.jobs := perm.mem_iff.mp (split ▸ by simp)
      rw [JobFailure.ofOutcome?_eq_none.mpr (fine job listed)] at failed
      simp at failed
  · rintro ⟨broken, listed, unsuccessful⟩
    rcases ran with ⟨fine, -⟩ | ⟨before, job, later, after, split, looped, fails⟩
    · exact absurd (fine broken (perm.mem_iff.mpr listed)) unsuccessful
    · obtain ⟨failure, -, held⟩ := fails.held
      have stopped : after.latch.stopped = true := by rw [held]
      exact ⟨before, job, later, after, split, looped, fails, fun workers =>
        ⟨_, loops_of_stopped _ workers stopped fails.closed, rfl⟩⟩

end

/-- The second job of a diamond panics while the third one waits. The next worker is turned away
with that one, and the one after it finds the queue empty. -/
theorem diamond_stops_at_second :
    let outcome : JobId → Outcome := fun job => if job = ⟨"2"⟩ then .panic "boom" else .success
    Graph.diamond.BreadthFirst [⟨"1"⟩, ⟨"2"⟩, ⟨"3"⟩, ⟨"4"⟩] ∧ ∃ after final,
      (fresh .diamond).loop (bodies .diamond outcome) 0 = some (.failed, after) ∧
        FailedOn .diamond outcome [⟨"1"⟩] ⟨"2"⟩ after ∧
        after.loops (bodies .diamond outcome) [1, 2] = ([some .stopped, some .drained], final) := by
  intro outcome
  obtain ⟨order, only, -, fails⟩ :=
    lone_worker_runs_breadth_first Graph.build_diamond (by decide) outcome 0
  obtain ⟨before, job, later, after, split, looped, failed, further⟩ := fails ⟨⟨"2"⟩, by decide⟩
  have breadth : Graph.diamond.BreadthFirst [⟨"1"⟩, ⟨"2"⟩, ⟨"3"⟩, ⟨"4"⟩] :=
    (Graph.breadthFirst_iff_eq (Graph.sound_of_build Graph.build_diamond)).mpr (by rfl)
  rw [← (only _).mp breadth] at split
  have second : job = ⟨"2"⟩ := by
    obtain ⟨failure, own, -⟩ := failed.held
    by_contra other
    simp [outcome, other, JobFailure.ofOutcome?] at own
  subst second
  have same : [⟨"1"⟩] ++ ⟨"2"⟩ :: [⟨"3"⟩, ⟨"4"⟩] = before ++ ⟨"2"⟩ :: later := split
  obtain ⟨rfl, -⟩ := (List.append_cons_inj_of_notMem (by decide) (by decide)).mp same
  have waits : after.backlog.waiting = [⟨"3"⟩] := by
    have ready : Graph.diamond.readyAfter [⟨"1"⟩] = [⟨"1"⟩, ⟨"2"⟩, ⟨"3"⟩] := by rfl
    simpa [ready] using failed.waiting
  obtain ⟨final, exits, -⟩ := further [1, 2]
  rw [waits] at exits
  exact ⟨breadth, after, final, looped, failed, exits⟩

end Precedence.Bench

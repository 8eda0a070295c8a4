import Precedence.Pool.Rounds
import Precedence.Proofs.Pool.Readiness
/-!
# How long a run can take

Every step leaves less to do. `toil` weighs what is left: each worker by its position, each job
that waits in the queue, each job that has not become ready, and the orchestrator by its stage. A
position weighs more than any to which its worker can go next, by more than what the same step adds
elsewhere: a pushed job to the queue, a broadcast to the workers it wakes. So `toil` falls with
every step (`Step.toil_lt`), and a run without stray wakeups has at most `stepBound` steps.
-/

namespace Precedence

/-- What is left to do, in a pool of `n` workers, after a failure has been reported. -/
@[simp] def Aftermath.effort (n : Nat) : Aftermath → Nat
  | .notify _ => n + 7
  | .leave | .unwind => 0

/-- What is left to do for a worker, in a pool of `n`. -/
@[simp] def Position.effort (n : Nat) : Position → Nat
  | .unborn | .parked | .gone _ => 0
  | .taking => 1
  | .offering ready => (2 * n + 21) * ready.length + 2
  | .notifying ready => (2 * n + 21) * ready.length + 4
  | .pushing _ ready => (2 * n + 21) * ready.length + (2 * n + 22)
  | .waking aftermath => aftermath.effort n + 3
  | .broadcasting aftermath => aftermath.effort n + (n + 4)
  | .closing aftermath => aftermath.effort n + (n + 5)
  | .reporting _ aftermath => aftermath.effort n + (n + 6)
  | .lamenting _ | .releasing _ => n + 7
  | .counting _ => n + 8
  | .recording _ => n + 9
  | .praising _ => n + 10
  | .running _ => 2 * n + 14
  | .announcing _ => 2 * n + 15
  | .entering _ => 2 * n + 16
  | .checking _ => 2 * n + 17

/-- What is left to do for the orchestrator of a pool of `n` workers. -/
def Stage.effort (n : Nat) : Stage → Nat
  | .spawning count => 2 * (n - count) + (n + 7)
  | .watching => n + 6
  | .dozing => n + 5
  | .asleep => n + 4
  | .closing => n + 3
  | .broadcasting => n + 2
  | .joining => 1
  | .returned _ => 0

namespace Pool

/-- How many jobs have not become ready. -/
def unready (plan : Plan) (s : Pool) : Nat := plan.graph.jobs.length - (s.readied plan).length

/-- What is left to do in a run. A job that waits weighs as much as one that was just taken, and a
job that is not ready as much as one that is offered. -/
def toil (plan : Plan) (s : Pool) : Nat :=
  census (Position.effort plan.workers) s.positions +
    (2 * plan.workers + 17) * s.backlog.waiting.length +
    (2 * plan.workers + 21) * s.unready plan + s.stage.effort plan.workers

section
variable {plan : Plan} {s t : Pool} {worker : Nat} {p q : Position}

theorem Stage.effort_woken (n : Nat) (stage : Stage) :
    stage.woken.effort n ≤ stage.effort n + 2 := by
  cases stage <;> simp [Stage.woken, Stage.effort]

theorem Deed.toil_lt (crew : Crew plan s) (bound : (t.readied plan).length ≤ plan.graph.jobs.length)
    (standing : s.positions[worker]? = some p) (done : Deed plan s worker p q t) :
    t.toil plan < s.toil plan := by
  have moved := census_set standing q (Position.effort plan.workers)
  cases done with
  | takes waits =>
    simp [toil, unready, Pool.readied, waits, Nat.mul_succ] at moved ⊢
    omega
  | pushes opened =>
    simp [toil, unready, Pool.readied, Backlog.push, opened, Nat.mul_succ] at moved ⊢
    omega
  | @releases job ready =>
    -- what the offered jobs weigh is what they weighed before they were ready
    simp [toil, unready, Pool.readied] at moved bound ⊢
    have fewer : plan.graph.jobs.length -
        (plan.graph.roots.length + (gather Event.readyJobs s.history).length) =
      plan.graph.jobs.length -
        (plan.graph.roots.length + ((gather Event.readyJobs s.history).length + ready.length)) +
          ready.length := by omega
    rw [fewer, Nat.mul_add]
    omega
  | @notifies other ready asleep =>
    have moved := census_set_woken standing asleep (by simp) (.offering ready)
      (Position.effort plan.workers)
    simp [toil, unready, Pool.readied] at moved ⊢
    omega
  | @broadcasts aftermath =>
    have still : (s.positions.map Position.woken)[worker]? = some (.broadcasting aftermath) := by
      simp [standing, Position.woken]
    have moved := census_set still (.waking aftermath) (Position.effort plan.workers)
    have woken : Pool.census (Position.effort plan.workers) (s.positions.map Position.woken) ≤ _ :=
      census_woken_le (by simp)
    rw [crew.size] at woken
    simp [toil, unready, Pool.readied] at moved ⊢
    omega
  | @countsLast job =>
    have stage := Stage.effort_woken plan.workers s.stage
    simp [toil, unready, Pool.readied] at moved ⊢
    omega
  | @wakes aftermath =>
    have stage := Stage.effort_woken plan.workers s.stage
    cases aftermath <;>
      simp [toil, unready, Pool.readied, Aftermath.next, Aftermath.parting] at moved ⊢ <;> omega
  | @reportsLate _ aftermath =>
    cases aftermath <;>
      simp [toil, unready, Pool.readied, Aftermath.next, Aftermath.parting] at moved ⊢ <;> omega
  | _ =>
    simp [toil, unready, Pool.readied, gather_ite, Backlog.close, Nat.mul_succ] at moved ⊢
    omega

theorem Duty.toil_lt (crew : Crew plan s) (done : Duty plan s t) : t.toil plan < s.toil plan := by
  cases done with
  | spawns at_ room =>
    have moved := census_set (crew.next_unborn at_ room) .taking (Position.effort plan.workers)
    simp [toil, unready, readied, Stage.effort, at_] at moved ⊢
    omega
  | broadcasts at_ =>
    have woken : census (Position.effort plan.workers) (s.positions.map Position.woken) ≤ _ :=
      census_woken_le (by simp)
    rw [crew.size] at woken
    simp [toil, unready, readied, Stage.effort, at_]
    omega
  | assembles at_ =>
    simp [toil, unready, readied, Stage.effort, at_]
    omega
  | settles at_ | dozes at_ | sleeps at_ | closes at_ | returns at_ =>
    simp [toil, unready, readied, gather_ite, Backlog.close, Stage.effort, at_]

/-- Every step leaves less to do. -/
theorem Step.toil_lt (sound : plan.graph.Sound) (h : Reachable plan s) (step : Step plan s t) :
    t.toil plan < s.toil plan := by
  obtain ⟨worker, p, q, standing, done⟩ | done := deed_or_duty step
  · have ready := (h.next step).readiness sound
    refine done.toil_lt (crew h) ?_ standing
    exact List.Nodup.length_le_of_subset ready.distinct fun job member => ready.listed member
  · exact done.toil_lt (crew h)

theorem toil_start (plan : Plan) :
    (start plan).toil plan ≤ stepBound plan.graph plan.workers := by
  have roots : plan.graph.roots.length ≤ plan.graph.jobs.length := List.length_filter_le ..
  have idle : census (Position.effort plan.workers) (.replicate plan.workers .unborn) = 0 :=
    census_eq_zero fun p member => by simp [(List.mem_replicate.mp member).2]
  have queued : (2 * plan.workers + 17) * plan.graph.roots.length ≤
      (2 * plan.workers + 21) * plan.graph.roots.length := Nat.mul_le_mul_right _ (by omega)
  have all : (2 * plan.workers + 21) * plan.graph.roots.length +
      (2 * plan.workers + 21) * (plan.graph.jobs.length - plan.graph.roots.length) =
        (2 * plan.workers + 21) * plan.graph.jobs.length := by
    rw [← Nat.mul_add, Nat.add_sub_of_le roots]
  simp only [toil, idle, unready, readied, start, Board.start, Backlog.pushAll_of_open, gather_nil,
    List.append_nil, List.nil_append, Stage.effort, stepBound]
  omega

end

end Pool

end Precedence

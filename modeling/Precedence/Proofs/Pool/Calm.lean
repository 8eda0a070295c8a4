import Precedence.Proofs.Pool.Stop
/-!
# Which jobs can run

A job is eligible when its dependencies have succeeded and it has not succeeded itself. Whatever
waits in the queue or is being worked on is eligible. The converse holds in a run that was not
stopped, as soon as every worker is calm, which is to say inside a body, asleep, or gone
(`eligible_perm`): then no job is on its way from one stage to the next, so an eligible one waits in
the queue or has a worker.
-/

namespace Precedence

/-- Whether a worker is inside a body, asleep, or gone. -/
@[simp] def Position.calm : Position → Bool
  | .running _ | .parked | .gone _ => true
  | _ => false

namespace Pool

/-- The jobs that have not succeeded although their dependencies have. -/
def eligible (plan : Plan) (s : Pool) : List JobId :=
  plan.graph.jobs.filter fun v =>
    v ∉ s.completed ∧ ∀ u ∈ plan.graph.dependencies v, u ∈ s.completed

section
variable {plan : Plan} {s : Pool} {v : JobId}

theorem mem_eligible : v ∈ s.eligible plan ↔ v ∈ plan.graph.jobs ∧ v ∉ s.completed ∧
    ∀ u ∈ plan.graph.dependencies v, u ∈ s.completed := by
  simp [eligible]

theorem nodup_eligible (sound : plan.graph.Sound) : (s.eligible plan).Nodup :=
  sound.jobs_nodup.filter _

/-- A job that has become ready is eligible until it has succeeded. -/
theorem Readiness.eligible (ready : Readiness plan s) (ledger : Ledger plan s)
    (readied : v ∈ s.readied plan) (open_ : v ∉ s.completed) : v ∈ s.eligible plan := by
  obtain ⟨listed, released⟩ := (ready.ready_iff v).mp readied
  exact mem_eligible.mpr ⟨listed, open_, fun u dependency =>
    ledger.released_subset (released u dependency)⟩

theorem Ledger.nodup_going (ledger : Ledger plan s) (distinct : (s.readied plan).Nodup) :
    (s.backlog.waiting ++ s.busy).Nodup := by
  have taken := ledger.nodup_taken distinct
  have ended := ledger.nodup_ended distinct
  simp only [List.nodup_append', List.disjoint_append_left] at taken ended ⊢
  exact ⟨taken.1.1.1, ended.1.2.1, fun job waits busy =>
    taken.1.2.2.1 waits (ledger.busy_subset busy)⟩

/-- Whatever waits in the queue or is being worked on is eligible. -/
theorem Readiness.eligible_of_going (ready : Readiness plan s) (ledger : Ledger plan s)
    (going : v ∈ s.backlog.waiting ++ s.busy) : v ∈ s.eligible plan := by
  have taken := ledger.nodup_taken ready.distinct
  have ended := ledger.nodup_ended ready.distinct
  simp only [List.nodup_append', List.disjoint_append_left] at taken ended
  obtain waits | busy := List.mem_append.mp going
  · have accepted : v ∈ s.accepted plan := ledger.accepted.mem_iff.mpr (by simp [waits])
    exact ready.eligible ledger (ledger.accepted_subset accepted) fun completed =>
      taken.1.2.2.1 waits (ledger.completed_subset completed)
  · exact ready.eligible ledger (ledger.started_readied (ledger.busy_subset busy))
      fun completed => ended.1.2.2 completed busy

/-! ## When every worker is calm -/

section
variable (calm : ∀ p ∈ s.positions, p.calm = true)
include calm

/-- A calm worker has no job but the one whose body it is in. -/
theorem hands_of_calm {f : Position → List JobId} (running : ∀ job, f (.running job) = [])
    (parked : f .parked = []) (gone : ∀ exit, f (.gone exit) = []) :
    hands f s.positions = [] := by
  refine hands_eq_nil fun p member => ?_
  have resting := calm p member
  cases p with
  | running job => exact running job
  | parked => exact parked
  | gone exit => exact gone exit
  | _ => simp at resting

variable (running : s.latch.stopped = false)
include running

/-- Nothing has gone wrong with a started job: whoever found that out would have reported it. -/
theorem Conduct.spoiled_of_calm (conduct : Conduct plan s) : s.spoiled plan = [] := by
  by_contra lost
  obtain stopped | ⟨cause, aftermath, member⟩ := conduct.spoiled lost
  · simp [running] at stopped
  · simpa using calm _ member

/-- An eligible job waits in the queue or has a worker. -/
theorem Conduct.going_of_eligible (conduct : Conduct plan s) (ledger : Ledger plan s)
    (ready : Readiness plan s) (eligible : v ∈ s.eligible plan) :
    v ∈ s.backlog.waiting ++ s.busy := by
  obtain ⟨listed, open_, inherited⟩ := mem_eligible.mp eligible
  have idle : ∀ {f : Position → List JobId}, (∀ job, f (.running job) = []) → f .parked = [] →
      (∀ exit, f (.gone exit) = []) → hands f s.positions = [] := hands_of_calm calm
  have offered : s.offered = [] := idle (fun _ => rfl) rfl fun _ => rfl
  have held : s.held = [] := idle (fun _ => rfl) rfl fun _ => rfl
  have uncounted : s.uncounted = [] := idle (fun _ => rfl) rfl fun _ => rfl
  have unreleased : s.unreleased = [] := idle (fun _ => rfl) rfl fun _ => rfl
  have spoiled : s.spoiled plan = [] := conduct.spoiled_of_calm calm running
  have turnedAway : s.turnedAway = [] := by_contra fun lost => by
    simpa [running] using conduct.turnedAway lost
  -- a job is missing in the tally, so the run is not settled and the queue is open
  have missing : ¬ s.tally.total ≤ s.tally.finished := by
    have counted := ledger.finished
    have fewer := List.Nodup.length_le_of_subset
      ((ledger.nodup_completed ready.distinct).cons open_)
      (List.cons_subset.mpr ⟨listed, ready.completed_listed ledger⟩)
    rw [uncounted, List.length_nil] at counted
    rw [List.length_cons] at fewer
    rw [ledger.total]
    omega
  have unsettled : ¬ s.Settled := by simp [Settled, Tally.complete, running, missing]
  have dropped : s.dropped = [] := by_contra fun lost =>
    unsettled ((conduct.dropped lost).elim conduct.closed .inr)
  obtain ⟨last, counted, full⟩ := ledger.completed
  have going : last = [] := by_contra fun more => missing (full more)
  have released : ∀ u ∈ plan.graph.dependencies v, u ∈ s.released := fun u dependency => by
    simpa [uncounted, unreleased, going] using counted.mem_iff.mp (inherited u dependency)
  have readied : v ∈ s.readied plan := (ready.ready_iff v).mpr ⟨listed, released⟩
  have accepted : v ∈ s.accepted plan := by
    simpa [offered, dropped] using ledger.readied.mem_iff.mp readied
  have taken : v ∈ s.backlog.waiting ∨ v ∈ s.started := by
    simpa [held, turnedAway] using ledger.accepted.mem_iff.mp accepted
  refine List.mem_append.mpr (taken.imp_right fun started => ?_)
  simpa [open_, spoiled] using ledger.started.mem_iff.mp started

/-- If the run was not stopped and every worker is calm, the eligible jobs are those that wait in
the queue and those whose bodies are running. -/
theorem eligible_perm (sound : plan.graph.Sound) (h : Reachable plan s) :
    (s.eligible plan).Perm (s.backlog.waiting ++ s.busy) := by
  have ledger := h.ledger sound
  have ready := h.readiness sound
  refine (List.perm_ext_iff_of_nodup (nodup_eligible sound)
    (ledger.nodup_going ready.distinct)).mpr fun v => ?_
  exact ⟨(h.conduct sound).going_of_eligible calm running ledger ready,
    ready.eligible_of_going ledger⟩

end

end

end Pool

end Precedence

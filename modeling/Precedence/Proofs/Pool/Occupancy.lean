import Precedence.Proofs.Pool.Progress
import Precedence.Proofs.Pool.Verdict
/-!
# No worker idles while there is work

When every worker is calm and the run was not stopped, the eligible jobs are those that wait and
those whose bodies are running (`eligible_perm`). If a worker sleeps then none waits, and if nobody
sleeps then every worker is inside a body. So as many bodies run as there are eligible jobs, or
workers if these are fewer (`length_bodies_of_calm`).

It follows that jobs may wait for one another. Suppose that no body of a group ends before all of
them have begun, and the pool comes to a standstill. Then every worker would be inside a body of the
group while another job of it waits, so the group would be larger than the pool (`begun_of_stuck`).
A group that fits into the pool therefore begins, whatever the order in which the threads act
(`ready_jobs_get_workers`).
-/

namespace Precedence

/-- The job whose body a worker is in. -/
@[simp] def Position.body : Position → List JobId
  | .running job => [job]
  | _ => []

namespace Pool

/-- Whatever steps are taken `P` comes to hold, and until then there is a step to take. -/
inductive Inevitable (R : Pool → Pool → Prop) (P : Pool → Prop) : Pool → Prop where
  | now {s : Pool} (holds : P s) : Inevitable R P s
  | later {s : Pool} (moves : ∃ t, R s t) (all : ∀ t, R s t → Inevitable R P t) : Inevitable R P s

/-- A step in which no body of the group ends before all of them have begun. -/
def Together (plan : Plan) (group : List JobId) (s t : Pool) : Prop :=
  Step plan s t ∧ ∀ worker job outcome, t.history = .ended worker job outcome :: s.history →
    job ∈ group → group ⊆ s.begun

/-- The dependencies of all jobs of a group have succeeded. -/
def Prepared (plan : Plan) (group : List JobId) (s : Pool) : Prop :=
  ∀ v ∈ group, v ∈ plan.graph.jobs ∧ ∀ u ∈ plan.graph.dependencies v, u ∈ s.completed

section
variable {plan : Plan} {s t : Pool} {worker : Nat} {p q : Position} {group : List JobId}

/-! ## How many bodies run -/

theorem map_bodies (s : Pool) : s.bodies.map Prod.snd = hands Position.body s.positions := by
  unfold bodies
  generalize 0 = first
  induction s.positions generalizing first with
  | nil => rfl
  | cons p rest ih =>
    have after := ih (first + 1)
    cases p <;> simp_all [hands]

/-- Of the started jobs that have not succeeded, a calm worker is inside the body. -/
theorem length_bodies (calm : ∀ p ∈ s.positions, p.calm = true) :
    s.bodies.length = s.busy.length := by
  have same : s.busy = s.bodies.map Prod.snd := by
    rw [map_bodies]
    refine List.flatMap_congr fun p member => ?_
    have resting := calm p member
    cases p <;> simp at resting ⊢
  rw [same, List.length_map]

theorem busy_length_le (crew : Crew plan s) : s.busy.length ≤ plan.workers := by
  have bounded : census (fun p => p.busy.length) s.positions ≤ s.positions.length :=
    census_le_length fun p => by cases p <;> simp
  rwa [busy, length_hands, ← crew.size]

/-- Every worker has a job if everybody is inside a body. -/
theorem busy_length_eq (crew : Crew plan s)
    (inside : ∀ p ∈ s.positions, ∃ job, p = .running job) : s.busy.length = plan.workers := by
  have alike : ∀ p ∈ s.positions, p.busy.length = 1 := fun p member => by
    obtain ⟨job, rfl⟩ := inside p member
    rfl
  rw [busy, length_hands, census, List.map_congr_left alike, ← crew.size]
  simp

section
variable (sound : plan.graph.Sound) (h : Reachable plan s) (running : s.latch.stopped = false)
  (calm : ∀ p ∈ s.positions, p.calm = true)
include sound h running calm

theorem eligible_length : (s.eligible plan).length = s.backlog.waiting.length + s.busy.length := by
  rw [(eligible_perm calm running sound h).length_eq, List.length_append]

/-- As many bodies run as there are eligible jobs, or workers if these are fewer. -/
theorem length_bodies_of_calm :
    s.bodies.length = min plan.workers (s.eligible plan).length := by
  have eligible := eligible_length sound h running calm
  have fits := busy_length_le (crew h)
  rw [length_bodies calm]
  by_cases parked : .parked ∈ s.positions
  · have waiting := h.wakeups.waiting_eq_nil calm parked
    rw [waiting, List.length_nil] at eligible
    omega
  · by_cases left : ∃ p ∈ s.positions, isGone p = true
    · obtain ⟨p, member, gone⟩ := left
      have full : s.tally.complete = true :=
        ((h.conduct sound).settled_of_gone member gone).resolve_right (by simp [running])
      have all := completed_perm (h.ledger sound) (h.readiness sound) full
      have none : s.eligible plan = [] := List.eq_nil_iff_forall_not_mem.mpr fun v inside => by
        obtain ⟨listed, open_, -⟩ := mem_eligible.mp inside
        exact open_ (all.mem_iff.mpr listed)
      rw [none, List.length_nil] at eligible ⊢
      omega
    · have every : s.busy.length = plan.workers := busy_length_eq (crew h) fun p member => by
        have resting := calm p member
        cases p with
        | running job => exact ⟨job, rfl⟩
        | parked => exact absurd member parked
        | gone exit => exact absurd ⟨_, member, rfl⟩ left
        | _ => simp at resting
      omega

end

/-! ## Jobs that wait for one another -/

/-- A body ends in a deed of the worker that is inside it. -/
theorem Deed.ends (done : Deed plan s worker p q t) {other : Nat} {job : JobId} {outcome : Outcome}
    (ended : t.history = .ended other job outcome :: s.history) : p = .running job := by
  cases done with
  | succeeds | fails =>
    obtain ⟨-, rfl, -⟩ : other = worker ∧ _ ∧ _ := by simpa [eq_comm] using ended
    rfl
  | @reportsLate _ aftermath | @wakes aftermath =>
    cases aftermath <;> simp [Aftermath.parting] at ended
  | closes =>
    simp only [place_history, close_history] at ended
    split at ended <;> simp at ended
  | _ => simp at ended

theorem Duty.ends_nothing (done : Duty plan s t) {other : Nat} {job : JobId} {outcome : Outcome} :
    t.history ≠ .ended other job outcome :: s.history := by
  intro ended
  obtain ⟨news, noted, idle⟩ := (Chore.duty done).history
  have fresh : news = [.ended other job outcome] :=
    List.append_cancel_right (noted.symm.trans ended)
  simpa using idle (.ended other job outcome) (by simp [fresh])

theorem prepared_of_eligible (eligible : group ⊆ s.eligible plan) : Prepared plan group s := by
  intro v member
  obtain ⟨listed, -, inherited⟩ := mem_eligible.mp (eligible member)
  exact ⟨listed, inherited⟩

theorem Prepared.grows (h : Prepared plan group s) (grows : Grows s t)
    (earlier : Chronicle plan s) (later : Chronicle plan t) : Prepared plan group t := by
  intro v member
  obtain ⟨listed, inherited⟩ := h v member
  exact ⟨listed, fun u dependency =>
    grows.completed_subset earlier later (inherited u dependency)⟩

/-- When every worker is calm and nothing has gone wrong, every started job has begun. -/
theorem Chronicle.started_begun (chronicle : Chronicle plan s) (spoiled : s.spoiled plan = [])
    (calm : ∀ p ∈ s.positions, p.calm = true) : s.started ⊆ s.begun := by
  have announced : hands Position.unannounced s.positions = [] :=
    hands_of_calm calm (fun _ => rfl) rfl fun _ => rfl
  have entered : gather (Event.unbegunJobs plan) s.history = [] := by
    refine List.flatMap_eq_nil_iff.mpr fun e member => ?_
    have fine := List.flatMap_eq_nil_iff.mp spoiled e member
    cases e with
    | called worker callback => cases callback <;> simp_all
    | _ => rfl
  intro v started
  simpa [announced, entered, Pool.begun] using chronicle.begun.mem_iff.mp started

section
variable (stuck : ¬ ∃ t, Together plan group s t)
include stuck

/-- When nothing can move as long as no body of the group ends, every worker is calm. -/
theorem calm_of_together (h : Reachable plan s) : ∀ p ∈ s.positions, p.calm = true := by
  refine (calm_of_stuck h (fun t step done => ?_) fun {worker p q t} standing step done => ?_).2
  · exact stuck ⟨t, step, fun _ _ _ ended => absurd ended done.ends_nothing⟩
  · by_contra active
    refine stuck ⟨t, step, fun _ _ _ ended => ?_⟩
    simp [done.ends ended] at active

/-- A body that is not of the group could end. -/
theorem busy_subset_of_together (calm : ∀ p ∈ s.positions, p.calm = true) : s.busy ⊆ group := by
  intro v busy
  by_contra outside
  obtain ⟨p, member, holds⟩ := List.mem_flatMap.mp busy
  have resting := calm p member
  cases p with
  | running job =>
    obtain rfl := List.mem_singleton.mp holds
    obtain ⟨worker, standing⟩ := List.mem_iff_getElem?.mp member
    obtain ⟨q, done⟩ : ∃ q, Deed plan s worker (.running v) q (s.finishBody plan worker v) :=
      deed_of_finishBody
    refine stuck ⟨_, .work standing rfl, fun other job outcome ended grouped => ?_⟩
    obtain rfl := Position.running.inj (done.ends ended)
    exact absurd grouped outside
  | _ => simp at resting holds

/-- If a group of jobs fits into the pool and nothing can move as long as no body of the group ends,
then the run was stopped or the group has begun. -/
theorem begun_of_stuck (sound : plan.graph.Sound) (h : Reachable plan s)
    (fits : group.length ≤ plan.workers) (prepared : Prepared plan group s)
    (running : s.latch.stopped = false) : group ⊆ s.begun := by
  have calm := calm_of_together stuck h
  have inside := busy_subset_of_together stuck calm
  have ledger := h.ledger sound
  have begun : s.started ⊆ s.begun :=
    h.chronicle.started_begun ((h.conduct sound).spoiled_of_calm calm running) calm
  intro v member
  by_contra waits
  have unstarted : v ∉ s.started := fun started => waits (begun started)
  obtain ⟨listed, inherited⟩ := prepared v member
  have eligible : v ∈ s.eligible plan := mem_eligible.mpr ⟨listed,
    fun completed => unstarted (ledger.completed_subset completed), inherited⟩
  have queued : v ∈ s.backlog.waiting :=
    (List.mem_append.mp ((eligible_perm calm running sound h).mem_iff.mp eligible)).resolve_right
      fun busy => unstarted (ledger.busy_subset busy)
  -- a job waits, so every worker is inside a body, and all of these are other jobs of the group
  have occupied := length_bodies_of_calm sound h running calm
  rw [length_bodies calm, eligible_length sound h running calm] at occupied
  have some := List.length_pos_of_mem queued
  have once : (v :: s.busy).Nodup := by
    have going := ledger.nodup_going (h.readiness sound).distinct
    exact (List.nodup_append'.mp going).2.1.cons fun busy => unstarted (ledger.busy_subset busy)
  have more := List.Nodup.length_le_of_subset once (List.cons_subset.mpr ⟨member, inside⟩)
  rw [List.length_cons] at more
  omega

end

/-- Whatever steps are taken, a group of jobs that fits into the pool begins. -/
theorem inevitably_begun (sound : plan.graph.Sound) (h : Reachable plan s)
    (fits : group.length ≤ plan.workers) (prepared : Prepared plan group s) :
    Inevitable (Together plan group) (fun t => t.latch.stopped = true ∨ group ⊆ t.begun) s := by
  -- every step leaves less to do, and a completed dependency stays completed
  generalize left : s.toil plan = m
  induction m using Nat.strongRecOn generalizing s with
  | ind m ih =>
    by_cases already : s.latch.stopped = true ∨ group ⊆ s.begun
    · exact .now already
    · obtain ⟨running, waits⟩ := not_or.mp already
      refine .later (by_contra fun stuck => waits ?_) fun t ⟨step, _⟩ => ?_
      · exact begun_of_stuck stuck sound h fits prepared (by simpa using running)
      · have less : t.toil plan < m := left ▸ step.toil_lt sound h
        have later := h.next step
        exact ih _ less later (prepared.grows step.grows h.chronicle later.chronicle) rfl

/-- The pool conserves work. When every worker is inside a body, asleep or gone, and the run was not
stopped, as many bodies run as there are jobs that have not succeeded although their dependencies
have, or as there are workers. And jobs that are ready together and fit into the pool may wait for
one another: whatever happens in between, if none of them ends before all have begun, then they all
begin unless the run is stopped. -/
theorem ready_jobs_get_workers {jobs : List JobId} {edges : List Edge}
    (built : Graph.build jobs edges = .ok plan.graph) (h : Reachable plan s) :
    (s.latch.stopped = false → (∀ p ∈ s.positions, p.calm = true) →
      s.bodies.length = min plan.workers (s.eligible plan).length) ∧
    ∀ group : List JobId, group ⊆ s.eligible plan → group.length ≤ plan.workers →
      ∀ t, Leads plan s t → Inevitable (Together plan group)
        (fun u => u.latch.stopped = true ∨ group ⊆ u.begun) t := by
  have sound := Graph.sound_of_build built
  refine ⟨length_bodies_of_calm sound h, fun group eligible fits t leads => ?_⟩
  have later := leads.reachable h
  have prepared := prepared_of_eligible eligible
  exact inevitably_begun sound later fits
    (prepared.grows (leads.grows h) h.chronicle later.chronicle)

/-- Three workers run the diamond, and no body but the first one returns. -/
def standstill (rounds : Nat) : Pool :=
  run (.diamond 3 .success) { free := fun _ job => job = ⟨"1"⟩ } rounds
    (.start (.diamond 3 .success))

/-- Once the first job of the diamond is done, the two middle ones get a worker each, and the third
worker sleeps. They were bound to begin together. -/
theorem middle_jobs_get_workers :
    let plan : Plan := .diamond 3 .success
    let before := standstill 8
    let s := standstill 18
    s.positions = [.parked, .running ⟨"2"⟩, .running ⟨"3"⟩] ∧
      s.bodies.length = min 3 (s.eligible plan).length ∧
      before.positions = [.releasing ⟨"1"⟩, .parked, .parked] ∧
      Inevitable (Together plan [⟨"2"⟩, ⟨"3"⟩])
        (fun t => t.latch.stopped = true ∨ [⟨"2"⟩, ⟨"3"⟩] ⊆ t.begun) before := by
  intro plan before s
  have positions : s.positions = [.parked, .running ⟨"2"⟩, .running ⟨"3"⟩] := by rfl
  have reached (rounds : Nat) : Reachable plan (standstill rounds) := reachable_run rounds .start
  obtain ⟨occupied, -⟩ := ready_jobs_get_workers Graph.build_diamond (reached 18)
  obtain ⟨-, begins⟩ := ready_jobs_get_workers Graph.build_diamond (reached 8)
  have eligible : before.eligible plan = [⟨"2"⟩, ⟨"3"⟩] := by rfl
  exact ⟨positions, occupied (by rfl) (by simp [s, positions]), by rfl,
    begins _ (by rw [eligible]; simp) (by decide) _ .here⟩

end

end Pool

end Precedence

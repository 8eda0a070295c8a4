import Precedence.Proofs.Pool.Calm
/-!
# No wakeup is lost

A thread that sleeps is woken, or has nothing to do. `Wakeups` says so of the three ways to sleep
through a change: a worker parked at a queue that is closed, a worker parked while jobs wait, and
the orchestrator asleep while the run is settled. In each case another thread is about to send the
wakeup. It follows that no reachable state is stuck (`exists_step`): were every thread asleep, every
job would have been released, and the last one counted would have woken the orchestrator.
-/

namespace Precedence

/-- Whether a worker has stopped the run and is going to wake the orchestrator. -/
@[simp] def Position.rouses : Position → Bool
  | .closing _ | .broadcasting _ | .waking _ => true
  | _ => false

/-- Counts a worker that is about to look into the queue, or to wake one that will. -/
@[simp] def Position.alert : Position → Nat
  | .taking | .notifying _ => 1
  | _ => 0

namespace Pool

structure Wakeups (s : Pool) : Prop where
  closed : s.backlog.closed = true → .parked ∈ s.positions →
    s.stage = .broadcasting ∨ ∃ aftermath, .broadcasting aftermath ∈ s.positions
  waiting : .parked ∈ s.positions → s.backlog.waiting.length ≤ census Position.alert s.positions
  settled : s.stage = .dozing ∨ s.stage = .asleep → s.Settled →
    ∃ p ∈ s.positions, p.rouses = true

section
variable {plan : Plan} {s t : Pool} {worker : Nat} {p q : Position}

theorem parked_not_mem_woken (positions : List Position) :
    .parked ∉ positions.map Position.woken := by
  simp only [List.mem_map, not_exists, not_and]
  intro p _
  unfold Position.woken
  split <;> simp_all

theorem Aftermath.next_ne_parked (aftermath : Aftermath) : aftermath.next ≠ .parked := by
  cases aftermath <;> simp [Aftermath.next]

/-- A worker is parked only by finding the queue empty and open. -/
theorem Deed.was_parked (standing : s.positions[worker]? = some p)
    (done : Deed plan s worker p q t) (awake : q ≠ .parked) (member : .parked ∈ t.positions) :
    .parked ∈ s.positions := by
  obtain arrived | taking | stayed := done.mem_positions standing member
  · exact absurd arrived.symm awake
  · simp at taking
  · exact stayed

theorem Chore.was_parked (crew : Crew plan s) (chore : Chore plan s t)
    (member : .parked ∈ t.positions) : .parked ∈ s.positions :=
  (chore.mem_positions crew member).resolve_left (by simp)

/-- Nobody is parked right after a broadcast. -/
theorem Deed.none_parked (done : Deed plan s worker p q t) {aftermath : Aftermath}
    (at_ : p = .broadcasting aftermath) : .parked ∉ t.positions := by
  cases done with
  | broadcasts =>
    intro member
    obtain inside | arrived := List.mem_or_eq_of_mem_set member
    · exact parked_not_mem_woken _ inside
    · simp at arrived
  | _ => simp at at_

/-- The orchestrator goes to sleep on its own account. -/
theorem Deed.drowsy (done : Deed plan s worker p q t)
    (h : t.stage = .dozing ∨ t.stage = .asleep) : t.stage = s.stage := by
  obtain same | ⟨woken, free⟩ := done.stage_eq
  · exact same
  · rw [woken] at h ⊢
    cases stage : s.stage <;> simp [stage, Stage.woken, tallyHeld] at h free ⊢

namespace Wakeups

variable (h : Wakeups s)
include h

theorem deed_closed (standing : s.positions[worker]? = some p)
    (done : Deed plan s worker p q t) (closed : t.backlog.closed = true)
    (parked : .parked ∈ t.positions) :
    t.stage = .broadcasting ∨ ∃ aftermath, .broadcasting aftermath ∈ t.positions := by
  have arrived := List.mem_of_getElem? (done.arrives standing)
  have kept (before : s.backlog.closed = true) (awake : q ≠ .parked) :
      t.stage = .broadcasting ∨ ∃ aftermath, .broadcasting aftermath ∈ t.positions := by
    obtain stage | ⟨aftermath, member⟩ := h.closed before (done.was_parked standing awake parked)
    · refine .inl ?_
      obtain same | ⟨woken, -⟩ := done.stage_eq
      · rw [same, stage]
      · rw [woken, stage, Stage.woken]
        simp
    · refine .inr ⟨aftermath, done.stays standing member ?_ (by simp)⟩
      intro acting
      exact done.none_parked acting.symm parked
  cases done with
  | closes => exact .inr ⟨_, arrived⟩
  | parks _ opened => simp [opened] at closed
  | pushes opened => simp [Backlog.push, opened] at closed
  | reportsLate | wakes => exact kept (by simpa using closed) (Aftermath.next_ne_parked _)
  | _ => exact kept (by simpa using closed) (by simp)

theorem deed_waiting (standing : s.positions[worker]? = some p)
    (done : Deed plan s worker p q t) (parked : .parked ∈ t.positions) :
    t.backlog.waiting.length ≤ census Position.alert t.positions := by
  have before := fun awake => h.waiting (done.was_parked standing awake parked)
  have moved := census_set standing q Position.alert
  have none_parked : ∀ aftermath, p = .broadcasting aftermath → .parked ∉ t.positions :=
    fun _ => done.none_parked
  cases done with
  | parks empty | drains empty => simp [empty]
  | broadcasts => exact absurd parked (none_parked _ rfl)
  | notifiesNobody nobody =>
    obtain stayed | arrived := List.mem_or_eq_of_mem_set parked
    · exact absurd stayed nobody
    · simp at arrived
  | @notifies other ready asleep =>
    have before := h.waiting (List.mem_of_getElem? asleep)
    have moved := census_set_woken standing asleep (by simp) (.offering ready) Position.alert
    simp at moved ⊢
    omega
  | takes waits =>
    have before := before (by simp)
    simp [waits] at before moved ⊢
    omega
  | pushes opened =>
    have before := before (by simp)
    simp [Backlog.push, opened] at moved ⊢
    omega
  | @reportsLate _ aftermath | @wakes aftermath =>
    have before := before (Aftermath.next_ne_parked _)
    cases aftermath <;> simp [Aftermath.next] at moved ⊢ <;> omega
  | _ =>
    have before := before (by simp)
    simp [Backlog.close] at moved ⊢
    omega

theorem deed_settled (standing : s.positions[worker]? = some p)
    (done : Deed plan s worker p q t) (drowsy : t.stage = .dozing ∨ t.stage = .asleep)
    (settled : t.Settled) : ∃ r ∈ t.positions, r.rouses = true := by
  have arrived := List.mem_of_getElem? (done.arrives standing)
  have stage := done.drowsy drowsy
  have before : s.Settled → ∃ r ∈ s.positions, r.rouses = true := h.settled (stage ▸ drowsy)
  have kept (settled : s.Settled) (other : p.rouses = false) :
      ∃ r ∈ t.positions, r.rouses = true := by
    obtain ⟨r, member, rouses⟩ := before settled
    refine ⟨r, done.stays standing member ?_ ?_, rouses⟩
    · rintro rfl
      exact absurd rouses (by simp only [other, Bool.false_eq_true, not_false_eq_true])
    · rintro rfl
      simp at rouses
  cases done with
  | reports | closes | broadcasts => exact ⟨_, arrived, rfl⟩
  | wakes free | countsLast free =>
    -- the orchestrator would not be asleep any more
    rw [stage] at drowsy
    obtain dozing | asleep := drowsy
    · simp [tallyHeld, dozing] at free
    · simp [asleep, Stage.woken] at stage
  | overcounts _ beyond =>
    refine kept (.inl ?_) rfl
    simp only [Tally.complete, decide_eq_true_eq]
    omega
  | counts _ below =>
    refine kept (.inr (settled.resolve_left fun full => ?_)) rfl
    have enough : s.tally.total ≤ s.tally.finished + 1 := of_decide_eq_true full
    omega
  | _ => exact kept (by simpa [Settled] using settled) rfl

theorem deed (standing : s.positions[worker]? = some p) (done : Deed plan s worker p q t) :
    Wakeups t where
  closed := h.deed_closed standing done
  waiting := h.deed_waiting standing done
  settled := h.deed_settled standing done

/-- A chore that leaves closing and stage alone. -/
theorem chore_closed (crew : Crew plan s) (chore : Chore plan s t)
    (closed : s.backlog.closed = true) (parked : .parked ∈ t.positions)
    (stage : s.stage = .broadcasting → t.stage = .broadcasting) :
    t.stage = .broadcasting ∨ ∃ aftermath, .broadcasting aftermath ∈ t.positions := by
  refine (h.closed closed (chore.was_parked crew parked)).imp stage ?_
  rintro ⟨aftermath, member⟩
  exact ⟨aftermath, chore.stays crew member (by simp) (by simp)⟩

theorem duty (crew : Crew plan s) (done : Duty plan s t) : Wakeups t := by
  have closed := fun before parked => h.chore_closed crew (.duty done) before parked
  have was_parked := fun parked => (Chore.duty done).was_parked crew parked
  cases done with
  | spawns at_ room =>
    refine ⟨fun before parked => closed before parked (by simp [at_]), fun parked => ?_, by simp⟩
    have moved := census_set (crew.next_unborn at_ room) .taking Position.alert
    have before := h.waiting (was_parked parked)
    simp at moved ⊢
    omega
  | assembles at_ | settles at_ =>
    exact ⟨fun before parked => closed before parked (by simp [at_]), h.waiting, by simp⟩
  | returns at_ =>
    exact ⟨fun before parked => closed before parked (by simp [at_]), h.waiting, by simp⟩
  | dozes at_ unsettled =>
    refine ⟨fun before parked => closed before parked (by simp [at_]), h.waiting, ?_⟩
    intro _ settled
    simp [Tally.settled, Settled] at unsettled settled
    simp [unsettled] at settled
  | sleeps at_ =>
    refine ⟨fun before parked => closed before parked (by simp [at_]), h.waiting, fun _ => ?_⟩
    exact h.settled (.inl at_)
  | closes at_ =>
    exact ⟨fun _ _ => .inl rfl, by simpa [Backlog.close] using h.waiting, by simp⟩
  | broadcasts at_ =>
    have none := parked_not_mem_woken s.positions
    exact ⟨fun _ parked => absurd parked none, fun parked => absurd parked none, by simp⟩

theorem stray (crew : Crew plan s) (woken : Stray s t) : Wakeups t := by
  have chore : Chore plan s t := .stray woken
  have closed := fun before parked => h.chore_closed crew chore before parked
  have was_parked := fun parked => chore.was_parked crew parked
  have stays := fun r (member : r ∈ s.positions) => chore.stays crew member
  cases woken with
  | worker asleep =>
    refine ⟨fun before parked => closed before parked id, fun parked => ?_, ?_⟩
    · have moved := census_set asleep .taking Position.alert
      have before := h.waiting (was_parked parked)
      simp at moved ⊢
      omega
    · intro drowsy settled
      obtain ⟨r, member, rouses⟩ := h.settled drowsy settled
      have awake : r ≠ .parked := by
        rintro rfl
        simp at rouses
      have born : r ≠ .unborn := by
        rintro rfl
        simp at rouses
      exact ⟨r, stays r member awake born, rouses⟩
  | orchestrator asleep =>
    exact ⟨fun before parked => closed before parked (by simp [asleep]), h.waiting, by simp⟩

end Wakeups

theorem wakeups_start (plan : Plan) : Wakeups (.start plan) where
  closed := by simp [start, Board.start, Backlog.pushAll_of_open]
  waiting := by simp [start]
  settled := by simp [start]

theorem Reachable.wakeups (h : Reachable plan s) : Wakeups s := by
  refine Reachable.invariant (wakeups_start plan) ?_ ?_ h
  · exact fun _ ih standing done => ih.deed standing done
  · intro s t reached ih chore
    cases chore with
    | duty done => exact ih.duty (crew reached) done
    | stray woken => exact ih.stray (crew reached) woken

/-! ## Somebody can act -/

theorem step_of_active (standing : s.positions[worker]? = some p) (free : s.tallyHeld = false)
    (born : p ≠ .unborn) (awake : p ≠ .parked) (present : isGone p = false) :
    ∃ t q, Step plan s t ∧ Deed plan s worker p q t := by
  have acting {t : Pool} (acts : s.act plan worker p = some t) :
      ∃ t q, Step plan s t ∧ Deed plan s worker p q t := by
    obtain ⟨q, done⟩ := deed_of_act acts
    exact ⟨t, q, .work standing acts, done⟩
  cases p with
  | unborn => exact absurd rfl born
  | parked => exact absurd rfl awake
  | gone exit => simp [isGone] at present
  | notifying ready =>
    by_cases nobody : .parked ∈ s.positions
    · obtain ⟨other, asleep⟩ := List.mem_iff_getElem?.mp nobody
      exact ⟨_, _, .notify standing asleep, .notifies asleep⟩
    · exact ⟨_, _, .notifyNobody standing nobody, .notifiesNobody nobody⟩
  | counting | waking => exact acting (by simp only [act, free]; rfl)
  | _ => exact acting rfl

theorem step_of_stage (running : ∀ result, s.stage ≠ .returned result) (awake : s.stage ≠ .asleep)
    (present : s.stage = .joining → ∀ p ∈ s.positions, isGone p = true) :
    ∃ t, Step plan s t ∧ Duty plan s t := by
  suffices acts : (s.orchestrate plan).isSome = true from
    (Option.isSome_iff_exists.mp acts).imp fun _ acts =>
      ⟨.orchestrate acts, duty_of_orchestrate acts⟩
  cases stage : s.stage with
  | asleep => exact absurd stage awake
  | returned result => exact absurd stage (running result)
  | joining => simpa [orchestrate, stage] using present stage
  | spawning | watching => simp only [orchestrate, stage]; split <;> rfl
  | _ => simp [orchestrate, stage]

/-- If no step is a duty of the orchestrator, or a deed of a worker that is not calm, then the
orchestrator waits for others and every worker is calm. -/
theorem calm_of_stuck (h : Reachable plan s) (idle : ∀ t, Step plan s t → ¬ Duty plan s t)
    (still : ∀ {worker p q t}, s.positions[worker]? = some p → Step plan s t →
      Deed plan s worker p q t → p.calm = true) :
    (s.stage = .asleep ∨ s.stage = .joining ∨ ∃ result, s.stage = .returned result) ∧
      ∀ p ∈ s.positions, p.calm = true := by
  have drowsy : s.stage = .asleep ∨ s.stage = .joining ∨ ∃ result, s.stage = .returned result := by
    by_contra! awake
    obtain ⟨t, step, done⟩ := step_of_stage awake.2.2 awake.1 fun joining =>
      absurd joining awake.2.1
    exact idle t step done
  have free : s.tallyHeld = false := by
    obtain stage | stage | ⟨result, stage⟩ := drowsy <;> simp [tallyHeld, stage]
  have born := (crew h).born fun n => by
    obtain stage | stage | ⟨result, stage⟩ := drowsy <;> simp [stage]
  refine ⟨drowsy, fun p member => by_contra fun active => ?_⟩
  obtain ⟨worker, standing⟩ := List.mem_iff_getElem?.mp member
  have awake : p ≠ .parked := by
    rintro rfl
    simp at active
  have present : isGone p = false := by cases p <;> simp [isGone] at active ⊢
  obtain ⟨t, q, step, done⟩ := step_of_active standing free (born p member) awake present
  exact active (still standing step done)

/-- The jobs that wait find a worker that is not calm, unless nobody sleeps. -/
theorem Wakeups.waiting_eq_nil (h : Wakeups s) (calm : ∀ p ∈ s.positions, p.calm = true)
    (parked : .parked ∈ s.positions) : s.backlog.waiting = [] := by
  have alert : census Position.alert s.positions = 0 := census_eq_zero fun p member => by
    have resting := calm p member
    cases p <;> simp at resting ⊢
  have bounded := h.waiting parked
  exact List.eq_nil_of_length_eq_zero (by omega)

/-- A pool that is not stopped and whose workers are all parked has counted every job: no job is
eligible, so each has succeeded after its dependencies. -/
theorem complete_of_parked (sound : plan.graph.Sound) (h : Reachable plan s)
    (parked : ∀ p ∈ s.positions, p = .parked) (manned : s.positions ≠ [])
    (running : s.latch.stopped = false) : s.tally.complete = true := by
  have ledger := h.ledger sound
  have calm : ∀ p ∈ s.positions, p.calm = true := fun p member => by simp [parked p member]
  have idle : ∀ {f : Position → List JobId}, f .parked = [] → hands f s.positions = [] :=
    fun none => hands_eq_nil fun p member => parked p member ▸ none
  have waiting : s.backlog.waiting = [] := by
    obtain ⟨p, member⟩ := List.exists_mem_of_ne_nil _ manned
    exact h.wakeups.waiting_eq_nil calm (parked p member ▸ member)
  have busy : s.busy = [] := idle rfl
  have uncounted : s.uncounted = [] := idle rfl
  have none : s.eligible plan = [] := by
    simpa [waiting, busy] using eligible_perm calm running sound h
  have all : ∀ v, v ∈ plan.graph.jobs → v ∈ s.completed := by
    refine sound.induction fun v inherited listed => by_contra fun open_ => ?_
    have eligible : v ∈ s.eligible plan := mem_eligible.mpr ⟨listed, open_, fun u dependency =>
      inherited u dependency (sound.mem_jobs_of_dependency dependency)⟩
    simp [none] at eligible
  have enough := List.Nodup.length_le_of_subset sound.jobs_nodup all
  have finished := ledger.finished
  rw [uncounted, List.length_nil] at finished
  rw [Tally.complete, decide_eq_true_eq, ledger.total]
  omega

/-- As long as a run has not returned, one of its threads can act. -/
theorem exists_step (sound : plan.graph.Sound) (manned : 1 ≤ plan.workers)
    (h : Reachable plan s) (running : ∀ result, s.stage ≠ .returned result) :
    ∃ t, Step plan s t := by
  by_contra stuck
  have conduct := h.conduct sound
  obtain ⟨drowsy, calm⟩ := calm_of_stuck h (fun t step _ => stuck ⟨t, step⟩)
    fun _ step _ => absurd ⟨_, step⟩ stuck
  have still : ∀ p ∈ s.positions, p = .parked ∨ isGone p = true := by
    intro p member
    have resting := calm p member
    cases p with
    | running job =>
      obtain ⟨worker, standing⟩ := List.mem_iff_getElem?.mp member
      exact absurd ⟨_, .work standing rfl⟩ stuck
    | parked => exact .inl rfl
    | gone exit => exact .inr rfl
    | _ => simp at resting
  obtain asleep | joining | ⟨result, returned⟩ := drowsy
  · have unsettled : ¬ s.Settled := fun settled => by
      obtain ⟨p, member, rouses⟩ := h.wakeups.settled (.inr asleep) settled
      obtain rfl | left := still p member
      · simp at rouses
      · cases p <;> simp [isGone] at left rouses
    have unstopped : ¬ s.latch.stopped = true := fun stopped => unsettled (.inr stopped)
    have parked : ∀ p ∈ s.positions, p = .parked := fun p member =>
      (still p member).resolve_right fun left => unsettled (conduct.settled_of_gone member left)
    have manned : s.positions ≠ [] := List.ne_nil_of_length_pos (by have := (crew h).size; omega)
    have full := complete_of_parked sound h parked manned (by simpa using unstopped)
    exact unsettled (.inl full)
  · have posture := conduct.posture
    rw [Posture, joining] at posture
    have alone : ∀ p ∈ s.positions, isGone p = true := by
      refine fun p member => (still p member).resolve_left ?_
      rintro rfl
      obtain stage | ⟨aftermath, busy⟩ := h.wakeups.closed posture.2 member
      · simp [joining] at stage
      · simpa [isGone] using still _ busy
    obtain ⟨t, step, -⟩ := step_of_stage running (by simp [joining]) fun _ => alone
    exact stuck ⟨t, step⟩
  · exact running result returned

end

end Pool

end Precedence

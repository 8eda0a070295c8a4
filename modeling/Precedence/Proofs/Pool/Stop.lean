import Precedence.Proofs.Pool.Chronicle
/-!
# How a run stops

Four things only grow in a run: the history, the latch, the closing of the queue and the tally
(`Grows`). `Standing` is what the position of a worker says about them, and `Conduct` puts it
together with what holds of the board and of the orchestrator: a run is stopped by a failed job or a
panic of the observer and by nothing else, the queue is closed only when the run is settled, and a
job that does not go on is accounted for by a stop. `Reachable.conduct` proves it of every
interleaving.
-/

namespace Precedence.Pool

/-- What can only grow in a run. -/
structure Grows (s t : Pool) : Prop where
  history : s.history <:+ t.history
  latch : s.latch.stopped = true → t.latch = s.latch
  closed : s.backlog.closed = true → t.backlog.closed = true
  complete : s.tally.complete = true → t.tally.complete = true

/-- The orchestrator may go on. -/
def Settled (s : Pool) : Prop := s.tally.complete = true ∨ s.latch.stopped = true

/-- What may stop a run: a job that failed, or a panic of the observer when it was told of a start
or of a success. -/
def Legit (plan : Plan) (history : List Event) : StopCause → Prop
  | .job failure =>
    JobFailure.ofOutcome? failure.job (plan.outcome failure.job) = some failure ∧
      ∃ worker, .ended worker failure.job (plan.outcome failure.job) ∈ history
  | .internal error => ∃ message callback, error = .workerPanicked message ∧
      plan.observer callback = some message ∧ (∀ failure, callback ≠ .failed failure) ∧
        ∃ worker, .called worker callback ∈ history

/-- What the position of a worker says about the board. -/
def Standing (plan : Plan) (s : Pool) : Position → Prop
  | .reporting cause _ => Legit plan s.history cause ∨ s.latch.stopped = true
  | .closing _ | .lamenting _ | .gone .failed | .gone .stopped => s.latch.stopped = true
  | .broadcasting _ | .waking _ => s.latch.stopped = true ∧ s.backlog.closed = true
  | .gone .drained => s.backlog.closed = true
  | .gone .completedLast => s.tally.complete = true
  | _ => True

/-- What the stage of the orchestrator says about the board. -/
def Posture (plan : Plan) (s : Pool) : Prop :=
  match s.stage with
  | .closing => s.Settled
  | .broadcasting | .joining => s.Settled ∧ s.backlog.closed = true
  | .returned result =>
    s.Settled ∧ (∀ p ∈ s.positions, isGone p = true) ∧ result = s.result plan
  | _ => True

structure Conduct (plan : Plan) (s : Pool) : Prop where
  standing : ∀ p ∈ s.positions, Standing plan s p
  posture : s.Posture plan
  latch : s.latch = {} ∨ ∃ cause, s.latch = ⟨true, some cause⟩ ∧ Legit plan s.history cause
  closed : s.backlog.closed = true → s.Settled
  dropped : s.dropped ≠ [] → s.backlog.closed = true ∨ s.latch.stopped = true
  turnedAway : s.turnedAway ≠ [] → s.latch.stopped = true
  spoiled : s.spoiled plan ≠ [] → s.latch.stopped = true ∨
    ∃ cause aftermath, .reporting cause aftermath ∈ s.positions

section
variable {plan : Plan} {s t : Pool} {worker : Nat} {p q r : Position}

/-! ## What grows -/

theorem Grows.refl (s : Pool) : Grows s s := ⟨List.suffix_refl _, fun _ => rfl, id, id⟩

theorem Grows.trans {u : Pool} (first : Grows s t) (second : Grows t u) : Grows s u where
  history := first.history.trans second.history
  latch h := (second.latch (first.latch h ▸ h)).trans (first.latch h)
  closed h := second.closed (first.closed h)
  complete h := second.complete (first.complete h)

theorem Grows.stopped (grows : Grows s t) (h : s.latch.stopped = true) :
    t.latch.stopped = true := grows.latch h ▸ h

theorem Grows.settled (grows : Grows s t) (h : s.Settled) : t.Settled :=
  h.imp grows.complete grows.stopped

theorem Grows.legit (grows : Grows s t) {cause : StopCause} (h : Legit plan s.history cause) :
    Legit plan t.history cause := by
  have kept := fun {e : Event} (member : e ∈ s.history) => grows.history.subset member
  cases cause with
  | job failure =>
    obtain ⟨failed, worker, member⟩ := h
    exact ⟨failed, worker, kept member⟩
  | internal error =>
    obtain ⟨message, callback, same, loud, other, worker, member⟩ := h
    exact ⟨message, callback, same, loud, other, worker, kept member⟩

theorem Standing.grows (h : Standing plan s p) (grows : Grows s t) : Standing plan t p := by
  cases p with
  | reporting cause aftermath => exact h.imp grows.legit grows.stopped
  | closing | lamenting => exact grows.stopped h
  | broadcasting | waking => exact h.imp grows.stopped grows.closed
  | gone exit =>
    cases exit with
    | drained => exact grows.closed h
    | completedLast => exact grows.complete h
    | stopped | failed => exact grows.stopped h
  | _ => trivial

theorem Deed.tally (done : Deed plan s worker p q t) :
    t.tally = s.tally ∨ t.tally = s.tally.mark := by
  cases done with
  | overcounts | countsLast | counts => exact .inr (by simp)
  | _ => exact .inl (by simp)

theorem Deed.grows (done : Deed plan s worker p q t) : Grows s t := by
  refine ⟨done.history, ?_, ?_, ?_⟩
  · cases done with
    | reports running => simp [running]
    | _ => simp
  · cases done with
    | pushes opened => simp [opened]
    | _ => simp +contextual [Backlog.close]
  · obtain same | marked := done.tally
    · simp [same]
    · simp only [marked, Tally.complete, Tally.mark, decide_eq_true_eq]
      omega

theorem Chore.grows (chore : Chore plan s t) : Grows s t := by
  obtain ⟨news, history, -⟩ := chore.history
  refine ⟨history ▸ List.suffix_append news s.history, fun _ => chore.latch, ?_, ?_⟩
  · rcases chore.board with same | closed <;> simp_all [Backlog.close]
  · rw [chore.tally]
    exact id

theorem Step.grows (step : Step plan s t) : Grows s t := by
  obtain ⟨worker, p, q, -, done⟩ | done := deed_or_duty step
  · exact done.grows
  · exact (Chore.duty done).grows

/-- What has succeeded stays so. -/
theorem Grows.completed_subset (grows : Grows s t) (h : Chronicle plan s)
    (later : Chronicle plan t) : s.completed ⊆ t.completed := by
  rw [h.completed, later.completed]
  exact gather_subset grows.history

theorem Leads.grows (h : Reachable plan s) (leads : Leads plan s t) : Grows s t := by
  refine Leads.invariant h (Grows.refl s) ?_ ?_ leads
  · exact fun _ ih _ done => ih.trans done.grows
  · exact fun _ ih chore => ih.trans chore.grows

/-! ## Who stays where -/

theorem Deed.acts (done : Deed plan s worker p q t) : isGone p = false := by
  cases done <;> rfl

theorem Deed.mem_positions (standing : s.positions[worker]? = some p)
    (done : Deed plan s worker p q t) (member : r ∈ t.positions) :
    r = q ∨ r = .taking ∨ r ∈ s.positions := by
  obtain ⟨i, there⟩ := List.mem_iff_getElem?.mp member
  by_cases here : i = worker
  · subst here
    exact .inl (Option.some.inj (there.symm.trans (done.arrives standing)))
  · obtain kept | ⟨_, taking⟩ := done.others standing here
    · exact .inr (.inr (List.mem_of_getElem? (kept.symm.trans there)))
    · exact .inr (.inl (Option.some.inj (there.symm.trans taking)))

/-- Whoever is neither the one that acts nor parked stays. -/
theorem Deed.stays (standing : s.positions[worker]? = some p) (done : Deed plan s worker p q t)
    (member : r ∈ s.positions) (other : r ≠ p) (awake : r ≠ .parked) : r ∈ t.positions := by
  obtain ⟨i, there⟩ := List.mem_iff_getElem?.mp member
  have differ : i ≠ worker := by
    rintro rfl
    exact other (Option.some.inj (there.symm.trans standing))
  obtain kept | ⟨parked, _⟩ := done.others standing differ
  · exact List.mem_of_getElem? (kept.trans there)
  · exact absurd (Option.some.inj (there.symm.trans parked)) awake

theorem Chore.mem_positions (crew : Crew plan s) (chore : Chore plan s t)
    (member : r ∈ t.positions) : r = .taking ∨ r ∈ s.positions := by
  obtain ⟨i, there⟩ := List.mem_iff_getElem?.mp member
  obtain kept | ⟨-, taking⟩ := chore.others crew i
  · exact .inr (List.mem_of_getElem? (kept.symm.trans there))
  · exact .inl (Option.some.inj (there.symm.trans taking))

/-- Whoever is neither parked nor still to be spawned stays. -/
theorem Chore.stays (crew : Crew plan s) (chore : Chore plan s t) (member : r ∈ s.positions)
    (awake : r ≠ .parked) (born : r ≠ .unborn) : r ∈ t.positions := by
  obtain ⟨i, there⟩ := List.mem_iff_getElem?.mp member
  obtain kept | ⟨parked | unborn, -⟩ := chore.others crew i
  · exact List.mem_of_getElem? (kept.trans there)
  · exact absurd (Option.some.inj (there.symm.trans parked)) awake
  · exact absurd (Option.some.inj (there.symm.trans unborn)) born

/-! ## What a deed leads to -/

theorem job_of_ofOutcome {job : JobId} {outcome : Outcome} {failure : JobFailure}
    (h : JobFailure.ofOutcome? job outcome = some failure) : failure.job = job := by
  cases outcome with
  | success => simp [JobFailure.ofOutcome?] at h
  | failure error | panic message =>
    simp only [JobFailure.ofOutcome?, Option.some.injEq] at h
    subst h
    rfl

/-- A job that is about to be counted is one of those that are missing in the tally. -/
theorem Ledger.room (ledger : Ledger plan s) (ready : Readiness plan s) {job : JobId}
    (standing : s.positions[worker]? = some (.counting job)) :
    s.tally.finished < s.tally.total := by
  have counted := ledger.finished
  have some : job ∈ s.uncounted := mem_hands standing (by simp)
  have positive := List.length_pos_of_mem some
  have bounded := ready.completed_length_le ledger
  rw [ledger.total]
  omega

/-- No deed leads to the report of a broken rule: a job that is held is one of the jobs, a job that is
to be counted has room in the tally, and the counters of its dependents are above zero. -/
theorem Deed.ne_breach (sound : plan.graph.Sound) (ledger : Ledger plan s)
    (ready : Readiness plan s) (standing : s.positions[worker]? = some p)
    (done : Deed plan s worker p q t) (breach : Breach) (aftermath : Aftermath) :
    q ≠ .reporting (.internal breach.toError) aftermath := by
  intro arrives
  cases done with
  | rejects unlisted =>
    have held := mem_hands standing (f := Position.held) (List.mem_singleton.mpr rfl)
    exact absurd (ready.listed (ledger.held_readied held)) unlisted
  | overcounts free beyond =>
    have := ledger.room ready standing
    omega
  | miscounts failed =>
    have succeeds := (ready.report sound (ledger.not_released ready.distinct standing)).1
    simp [failed] at succeeds
  | panicsAtStart | panicsAtSuccess | panicsAtFailure => simp [Breach.toError] at arrives
  | @reportsLate _ after | @wakes after => cases after <;> simp [Aftermath.next] at arrives
  | _ => simp at arrives

theorem Deed.standing (sound : plan.graph.Sound) (ledger : Ledger plan s)
    (ready : Readiness plan s) (standing : s.positions[worker]? = some p)
    (done : Deed plan s worker p q t) (h : Standing plan s p) : Standing plan t q := by
  have lawful := done.ne_breach sound ledger ready standing
  cases done with
  | rejects | overcounts | miscounts => exact absurd rfl (lawful _ _)
  | panicsAtStart loud | panicsAtSuccess loud =>
    exact .inl ⟨_, _, rfl, loud, by simp, worker, by simp⟩
  | panicsAtFailure => exact .inr h
  | fails failed =>
    obtain rfl := job_of_ofOutcome failed
    exact .inl ⟨failed, worker, by simp⟩
  | turnsAway stopped => exact stopped
  | drains _ closed => exact closed
  | countsLast free last =>
    simpa [Standing, Tally.complete, Tally.mark] using Nat.le_of_eq last.symm
  | @reportsLate _ aftermath stopped => cases aftermath <;> exact stopped
  | reports => rfl
  | closes => exact ⟨by simpa [Standing] using h, by simp [Backlog.close]⟩
  | broadcasts => exact h
  | @wakes aftermath => cases aftermath <;> simpa [Standing, Aftermath.next] using h.1
  | laments => exact h
  | _ => trivial

namespace Conduct

variable (h : Conduct plan s)
include h

theorem deed_standing (sound : plan.graph.Sound) (ledger : Ledger plan s)
    (ready : Readiness plan s) (standing : s.positions[worker]? = some p)
    (done : Deed plan s worker p q t) : ∀ r ∈ t.positions, Standing plan t r := by
  intro r member
  have before := h.standing p (List.mem_of_getElem? standing)
  obtain rfl | rfl | stayed := done.mem_positions standing member
  · exact done.standing sound ledger ready standing before
  · trivial
  · exact (h.standing r stayed).grows done.grows

theorem deed_posture (standing : s.positions[worker]? = some p)
    (done : Deed plan s worker p q t) : t.Posture plan := by
  have posture := h.posture
  have grows := done.grows
  have kept : t.stage = s.stage ∨ t.stage = .watching := by
    obtain same | ⟨woken, -⟩ := done.stage_eq
    · exact .inl same
    · rw [woken]
      cases s.stage <;> simp [Stage.woken]
  unfold Posture at posture ⊢
  obtain same | watching := kept
  · rw [same]
    cases stage : s.stage with
    | closing => exact grows.settled (by simpa [stage] using posture)
    | broadcasting | joining =>
      obtain ⟨settled, closed⟩ : s.Settled ∧ s.backlog.closed = true := by
        simpa [stage] using posture
      exact ⟨grows.settled settled, grows.closed closed⟩
    | returned =>
      -- no worker is left that could act
      have alone := (by simpa [stage] using posture : s.Settled ∧ _ ∧ _).2.1
      have acts := done.acts
      simp [alone p (List.mem_of_getElem? standing)] at acts
    | _ => trivial
  · rw [watching]
    trivial

theorem deed_latch (standing : s.positions[worker]? = some p)
    (done : Deed plan s worker p q t) :
    t.latch = {} ∨ ∃ cause, t.latch = ⟨true, some cause⟩ ∧ Legit plan t.history cause := by
  obtain idle | ⟨cause, set, legit⟩ := h.latch
  · have before := h.standing p (List.mem_of_getElem? standing)
    have grows := done.grows
    cases done with
    | @reports cause aftermath running =>
      have legit : Legit plan s.history cause := before.resolve_right (by simp [running])
      exact .inr ⟨cause, rfl, grows.legit legit⟩
    | _ => exact .inl (by simpa using idle)
  · have same := done.grows.latch (by rw [set])
    exact .inr ⟨cause, same.trans set, done.grows.legit legit⟩

theorem deed_closed (standing : s.positions[worker]? = some p)
    (done : Deed plan s worker p q t) (closed : t.backlog.closed = true) : t.Settled := by
  have before := h.standing p (List.mem_of_getElem? standing)
  by_cases earlier : s.backlog.closed = true
  · exact done.grows.settled (h.closed earlier)
  · cases done with
    | closes => exact .inr (by simpa [Standing] using before)
    | pushes opened => simp [Backlog.push, opened] at closed
    | _ => exact absurd (by simpa using closed) earlier

theorem deed_dropped (done : Deed plan s worker p q t) (lost : t.dropped ≠ []) :
    t.backlog.closed = true ∨ t.latch.stopped = true := by
  by_cases earlier : s.dropped = []
  · cases done with
    | withholds stopped => exact .inr stopped
    | refuses closed => exact .inl closed
    | _ => exact absurd earlier (by simpa [Pool.dropped, gather_ite, Aftermath.parting] using lost)
  · exact (h.dropped earlier).imp done.grows.closed done.grows.stopped

theorem deed_turnedAway (done : Deed plan s worker p q t) (lost : t.turnedAway ≠ []) :
    t.latch.stopped = true := by
  by_cases earlier : s.turnedAway = []
  · cases done with
    | turnsAway stopped => exact stopped
    | _ =>
      exact absurd earlier (by simpa [Pool.turnedAway, gather_ite, Aftermath.parting] using lost)
  · exact done.grows.stopped (h.turnedAway earlier)

theorem deed_spoiled (standing : s.positions[worker]? = some p)
    (done : Deed plan s worker p q t) (lost : t.spoiled plan ≠ []) :
    t.latch.stopped = true ∨ ∃ cause aftermath, .reporting cause aftermath ∈ t.positions := by
  have arrived := List.mem_of_getElem? (done.arrives standing)
  by_cases earlier : s.spoiled plan = []
  · cases done with
    | fails | panicsAtStart | panicsAtSuccess => exact .inr ⟨_, _, arrived⟩
    | succeeds fine => exact absurd earlier (by simpa [Pool.spoiled, fine] using lost)
    | begins silent | praises silent =>
      exact absurd earlier (by simpa [Pool.spoiled, silent] using lost)
    | _ => exact absurd earlier (by simpa [Pool.spoiled, gather_ite, Aftermath.parting] using lost)
  · obtain stopped | ⟨cause, aftermath, member⟩ := h.spoiled earlier
    · exact .inl (done.grows.stopped stopped)
    · by_cases same : Position.reporting cause aftermath = p
      · subst same
        cases done with
        | reportsLate stopped => exact .inl (by simpa using stopped)
        | reports => exact .inl rfl
      · exact .inr ⟨cause, aftermath, done.stays standing member same (by simp)⟩

theorem deed (sound : plan.graph.Sound) (ledger : Ledger plan s) (ready : Readiness plan s)
    (standing : s.positions[worker]? = some p) (done : Deed plan s worker p q t) :
    Conduct plan t where
  standing := h.deed_standing sound ledger ready standing done
  posture := h.deed_posture standing done
  latch := h.deed_latch standing done
  closed := h.deed_closed standing done
  dropped := h.deed_dropped done
  turnedAway := h.deed_turnedAway done
  spoiled := h.deed_spoiled standing done

theorem chore_posture (chore : Chore plan s t) : t.Posture plan := by
  have posture := h.posture
  unfold Posture at posture ⊢
  cases chore with
  | duty done =>
    cases done with
    | settles at_ settled => simpa [Tally.settled, Settled] using settled
    | closes at_ =>
      rw [at_] at posture
      exact ⟨by simpa [Settled] using posture, by simp [Backlog.close]⟩
    | broadcasts at_ => rwa [at_] at posture
    | returns at_ alone =>
      rw [at_] at posture
      exact ⟨posture.1, alone, rfl⟩
    | _ => trivial
  | stray woken =>
    cases woken with
    | orchestrator => trivial
    | worker asleep =>
      cases stage : s.stage with
      | returned =>
        have alone := (by simpa [stage] using posture : s.Settled ∧ _ ∧ _).2.1
        simpa [isGone] using alone _ (List.mem_of_getElem? asleep)
      | _ => simp_all [Settled]

theorem chore (crew : Crew plan s) (chore : Chore plan s t) : Conduct plan t := by
  have grows := chore.grows
  refine ⟨fun r member => ?_, h.chore_posture chore, ?_, fun closed => ?_, ?_, ?_, ?_⟩
  · obtain rfl | stayed := chore.mem_positions crew member
    · trivial
    · exact (h.standing r stayed).grows grows
  · rw [chore.latch]
    exact h.latch.imp_right fun ⟨cause, set, legit⟩ => ⟨cause, set, grows.legit legit⟩
  · by_cases earlier : s.backlog.closed = true
    · exact grows.settled (h.closed earlier)
    · have posture := h.posture
      cases chore with
      | duty done =>
        cases done with
        | closes at_ =>
          rw [Posture, at_] at posture
          exact grows.settled posture
        | _ => exact absurd closed earlier
      | stray woken => cases woken <;> exact absurd closed earlier
  · rw [chore.dropped]
    exact fun lost => (h.dropped lost).imp grows.closed grows.stopped
  · rw [chore.turnedAway]
    exact fun lost => grows.stopped (h.turnedAway lost)
  · rw [chore.spoiled]
    refine fun lost => (h.spoiled lost).imp grows.stopped ?_
    rintro ⟨cause, aftermath, member⟩
    exact ⟨cause, aftermath, chore.stays crew member (by simp) (by simp)⟩

end Conduct

theorem conduct_start (plan : Plan) : Conduct plan (.start plan) := by
  constructor <;> simp [start, Standing, Posture, Board.start, Backlog.pushAll_of_open, dropped,
    turnedAway, spoiled]

theorem Reachable.conduct (sound : plan.graph.Sound) (h : Reachable plan s) : Conduct plan s :=
  Reachable.invariant (I := Conduct plan) (conduct_start plan)
    (fun reached ih standing done =>
      ih.deed sound (reached.ledger sound) (reached.readiness sound) standing done)
    (fun reached ih chore => ih.chore (crew reached) chore) h

/-- What the latch holds is a legitimate cause. -/
theorem Conduct.legit (h : Conduct plan s) {cause : StopCause} (held : s.latch.held = some cause) :
    Legit plan s.history cause := by
  obtain idle | ⟨other, set, legit⟩ := h.latch
  · simp [idle] at held
  · rw [set] at held
    exact Option.some.inj held ▸ legit

/-- A worker leaves only a run that is settled. -/
theorem Conduct.settled_of_gone (h : Conduct plan s) (member : p ∈ s.positions)
    (left : isGone p = true) : s.Settled := by
  have standing := h.standing p member
  cases p with
  | gone exit =>
    cases exit with
    | drained => exact h.closed standing
    | completedLast => exact .inl standing
    | stopped | failed => exact .inr standing
  | _ => simp [isGone] at left

theorem Conduct.returned (h : Conduct plan s) {result : Except Error Verdict}
    (at_ : s.stage = .returned result) :
    s.Settled ∧ (∀ p ∈ s.positions, isGone p = true) ∧ result = s.result plan := by
  simpa [Posture, at_] using h.posture

end

end Precedence.Pool

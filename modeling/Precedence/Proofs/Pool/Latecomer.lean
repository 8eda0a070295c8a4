import Precedence.Proofs.Pool.Stop
/-!
# Jobs that start after the stop

A worker looks at the stop flag and notes the start of its job in two steps, so a run can be stopped
in between and the job starts nevertheless. Such a latecomer was on its way when the run was
stopped. From then on the jobs that a worker has started, together with the one that it is about to
start, stay the same (`Leads.entries`). So at most one job starts late for each worker but the one
whose report stopped the run (`few_jobs_start_after_stop`); every job that is taken later is turned
away.
-/

namespace Precedence

/-- A job that its worker is about to start: the stop flag was not set when it looked. -/
@[simp] def Position.admitted : Position → List JobId
  | .entering job => [job]
  | _ => []

/-- A job that this worker starts. -/
@[simp] def Event.enteredBy (worker : Nat) : Event → List JobId
  | .entered other job => if other = worker then [job] else []
  | _ => []

namespace Pool

/-- The job that a worker is about to start, if there is one. -/
def admitted (s : Pool) (worker : Nat) : List JobId :=
  (s.positions[worker]?.map Position.admitted).getD []

/-- The jobs that a worker has started, and then the one that it is about to start. -/
def entries (s : Pool) (worker : Nat) : List JobId :=
  gather (Event.enteredBy worker) s.history ++ s.admitted worker

/-- How many jobs were started, and how many more are about to be. -/
def entryCount (s : Pool) : Nat :=
  s.started.length + (hands Position.admitted s.positions).length

section
variable {plan : Plan} {s t u : Pool} {worker : Nat} {p q : Position}

/-! ## Who is on the way when the run is stopped -/

theorem admitted_of_standing (standing : s.positions[worker]? = some p) :
    s.admitted worker = p.admitted := by
  simp [admitted, standing]

theorem mem_admitted {job : JobId} :
    job ∈ s.admitted worker ↔ s.positions[worker]? = some (.entering job) := by
  cases standing : s.positions[worker]? with
  | none => simp [admitted, standing]
  | some p => cases p <;> simp [admitted, standing, eq_comm]

theorem length_admitted_le (s : Pool) (worker : Nat) : (s.admitted worker).length ≤ 1 := by
  cases standing : s.positions[worker]? with
  | none => simp [admitted, standing]
  | some p => cases p <;> simp [admitted, standing]

section
variable (stopped : s.latch.stopped = true) (standing : s.positions[worker]? = some p)
  (done : Deed plan s worker p q t) (listed : ∀ job, p = .entering job → job ∈ plan.graph.jobs)
include stopped standing done listed

theorem Deed.entries (other : Nat) : t.entries other = s.entries other := by
  by_cases here : other = worker
  · subst here
    rw [Pool.entries, Pool.entries, admitted_of_standing standing,
      admitted_of_standing (done.arrives standing)]
    cases done with
    | passes running => simp [stopped] at running
    | rejects unlisted => exact absurd (listed _ rfl) unlisted
    | @reportsLate _ aftermath | @wakes aftermath =>
      cases aftermath <;> simp [Aftermath.next, Aftermath.parting]
    | _ => simp [gather_ite]
  · have still : t.admitted other = s.admitted other := by
      obtain kept | ⟨parked, taking⟩ := done.others standing here
      · rw [admitted, kept, admitted]
      · simp [admitted, parked, taking]
    rw [Pool.entries, Pool.entries, still]
    cases done with
    | enters => simp [Ne.symm here]
    | _ => simp [gather_ite, Aftermath.parting]

theorem Deed.entryCount : t.entryCount = s.entryCount := by
  have moved := done.length_hands standing (f := Position.admitted) rfl
  simp only [Pool.entryCount]
  cases done with
  | passes running => simp [stopped] at running
  | rejects unlisted => exact absurd (listed _ rfl) unlisted
  | @reportsLate _ aftermath | @wakes aftermath =>
    cases aftermath <;> simp [Aftermath.next] at moved ⊢ <;> omega
  | _ =>
    simp at moved ⊢
    omega

end

theorem Chore.entries (crew : Crew plan s) (chore : Chore plan s t) (other : Nat) :
    t.entries other = s.entries other := by
  have still : t.admitted other = s.admitted other := by
    obtain kept | ⟨asleep | unspawned, taking⟩ := chore.others crew other
    · rw [admitted, kept, admitted]
    · simp [admitted, asleep, taking]
    · simp [admitted, unspawned, taking]
  rw [Pool.entries, Pool.entries, still,
    chore.gather (fun _ => rfl) (fun _ => rfl) rfl fun _ _ => rfl]

theorem Chore.entryCount (crew : Crew plan s) (chore : Chore plan s t) :
    t.entryCount = s.entryCount := by
  rw [Pool.entryCount, Pool.entryCount, chore.lists.1, chore.hands crew rfl rfl]

/-- A job that is about to be started is one of the jobs. -/
theorem Reachable.entering_listed (sound : plan.graph.Sound) (h : Reachable plan s)
    (standing : s.positions[worker]? = some p) (job : JobId) (entering : p = .entering job) :
    job ∈ plan.graph.jobs := by
  subst entering
  have held : job ∈ s.held := mem_hands standing (by simp)
  exact (h.readiness sound).listed ((h.ledger sound).held_readied held)

/-- `Leads.invariant` for what is kept once the run is stopped. -/
theorem Leads.after_stop {I : Pool → Prop} (h : Reachable plan s)
    (stopped : s.latch.stopped = true) (here : I s)
    (deed : ∀ {t u worker p q}, Reachable plan t → t.latch.stopped = true → I t →
      t.positions[worker]? = some p → Deed plan t worker p q u → I u)
    (chore : ∀ {t u}, Reachable plan t → I t → Chore plan t u → I u)
    (leads : Leads plan s t) : I t := by
  refine (Leads.invariant (I := fun t => t.latch.stopped = true ∧ I t) h ⟨stopped, here⟩
    ?_ ?_ leads).2
  · intro t u worker p q reached ih standing done
    exact ⟨done.grows.stopped ih.1, deed reached ih.1 ih.2 standing done⟩
  · intro t u reached ih done
    exact ⟨done.grows.stopped ih.1, chore reached ih.2 done⟩

/-- Once the run is stopped, no worker is admitted any more. -/
theorem Leads.entries (sound : plan.graph.Sound) (h : Reachable plan s)
    (stopped : s.latch.stopped = true) (leads : Leads plan s t) :
    (∀ other, t.entries other = s.entries other) ∧ t.entryCount = s.entryCount := by
  refine leads.after_stop (I := fun t => (∀ other, t.entries other = s.entries other) ∧
    t.entryCount = s.entryCount) h stopped ⟨fun _ => rfl, rfl⟩ ?_ ?_
  · rintro t u worker p q reached stopped ⟨entries, number⟩ standing done
    have listed := reached.entering_listed sound standing
    exact ⟨fun other => (done.entries stopped standing listed other).trans (entries other),
      (done.entryCount stopped standing listed).trans number⟩
  · rintro t u reached ⟨entries, number⟩ chore
    exact ⟨fun other => (chore.entries (crew reached) other).trans (entries other),
      (chore.entryCount (crew reached)).trans number⟩

/-- Once the run is stopped, a worker that is about to look at the stop flag leaves its job. -/
theorem Leads.turned_away (h : Reachable plan s) (stopped : s.latch.stopped = true) {job : JobId}
    (standing : s.positions[worker]? = some (.checking job)) (leads : Leads plan s t) :
    t.positions[worker]? = some (.checking job) ∨
      t.positions[worker]? = some (.gone .stopped) ∧ job ∈ t.turnedAway := by
  refine leads.after_stop (I := fun t => t.positions[worker]? = some (.checking job) ∨
    t.positions[worker]? = some (.gone .stopped) ∧ job ∈ t.turnedAway)
    h stopped (.inl standing) ?_ ?_
  · intro t u other p q _ stopped before acting done
    by_cases here : worker = other
    · subst here
      have arrived := done.arrives acting
      obtain checking | ⟨gone, -⟩ := before
      · obtain rfl := Option.some.inj (acting.symm.trans checking)
        cases done with
        | turnsAway => exact .inr ⟨arrived, by simp [turnedAway]⟩
        | passes running => simp [stopped] at running
      · obtain rfl := Option.some.inj (acting.symm.trans gone)
        simpa [isGone] using done.acts
    · have kept : u.positions[worker]? = t.positions[worker]? := by
        obtain kept | ⟨parked, -⟩ := done.others acting here
        · exact kept
        · simp [parked] at before
      rw [kept]
      exact before.imp_right (And.imp_right (gather_subset done.history ·))
  · intro t u reached before chore
    obtain kept | ⟨parked | unborn, -⟩ := chore.others (crew reached) worker
    · rwa [kept, chore.turnedAway]
    · simp [parked] at before
    · simp [unborn] at before

/-! ## The step that stops a run -/

theorem Step.stops (step : Step plan s t) (running : s.latch.stopped = false)
    (stopped : t.latch.stopped = true) : ∃ worker cause aftermath,
      s.positions[worker]? = some (.reporting cause aftermath) ∧
      t = { s.note (.reported worker cause true) with latch := ⟨true, some cause⟩ }.place worker
        (.closing aftermath) := by
  obtain ⟨worker, p, q, standing, done⟩ | done := deed_or_duty step
  · cases done with
    | reports => exact ⟨worker, _, _, standing, rfl⟩
    | _ => simp [running] at stopped
  · simp [(Chore.duty done).latch, running] at stopped

/-- What is started in a run after `reporter` has stopped it, which led to the state `s`. -/
structure LateStarts (plan : Plan) (s : Pool) (reporter : Nat) (later : List Event) : Prop where
  few : (gather Event.enteredJobs later).length ≤ plan.workers - 1
  once : ∀ worker, (gather (Event.enteredBy worker) later).length ≤ 1
  others : ∀ job, .entered reporter job ∉ later
  /-- Who starts a job late has taken it and looked at the stop flag before. -/
  admitted : ∀ worker job, .entered worker job ∈ later →
    s.positions[worker]? = some (.entering job)

theorem mem_enteredBy {worker : Nat} {job : JobId} {history : List Event} :
    job ∈ gather (Event.enteredBy worker) history ↔ .entered worker job ∈ history := by
  rw [mem_gather]
  constructor
  · rintro ⟨e, member, inside⟩
    cases e with
    | entered other job' =>
      by_cases here : other = worker
      · simp_all
      · simp [here] at inside
    | _ => simp at inside
  · exact fun member => ⟨_, member, by simp⟩

/-- Not everybody is about to start a job if one worker is not. -/
theorem length_admitted_lt (standing : s.positions[worker]? = some p) (idle : p.admitted = []) :
    (hands Position.admitted s.positions).length < s.positions.length := by
  rw [length_hands]
  have moved := census_set standing (.entering ⟨""⟩) fun p => p.admitted.length
  have bounded : census (fun p => p.admitted.length)
      (s.positions.set worker (.entering ⟨""⟩)) ≤ _ :=
    census_le_length fun p => by cases p <;> simp
  have one : (Position.entering ⟨""⟩).admitted.length = 1 := rfl
  simp only [idle, one, List.length_nil] at moved
  rw [List.length_set] at bounded
  omega

theorem Leads.lateStarts (sound : plan.graph.Sound) (h : Reachable plan s)
    (stopped : s.latch.stopped = true) (standing : s.positions[worker]? = some p)
    (idle : p.admitted = []) (leads : Leads plan s t) :
    ∃ later, t.history = later ++ s.history ∧
      t.started = s.started ++ gather Event.enteredJobs later ∧
      LateStarts plan s worker later := by
  obtain ⟨later, split⟩ := (leads.grows h).history
  obtain ⟨entries, number⟩ := leads.entries sound h stopped
  have started : t.started = s.started ++ gather Event.enteredJobs later := by
    rw [(leads.reachable h).chronicle.started, ← split, gather_append, ← h.chronicle.started]
  have same : ∀ other, gather (Event.enteredBy other) later ++ t.admitted other =
      s.admitted other := by
    intro other
    have kept := entries other
    rw [Pool.entries, Pool.entries, ← split, gather_append, List.append_assoc] at kept
    exact List.append_cancel_left kept
  have before : ∀ other job, .entered other job ∈ later →
      s.positions[other]? = some (.entering job) := by
    intro other job member
    rw [← mem_admitted, ← same]
    exact List.mem_append_left _ (mem_enteredBy.mpr member)
  refine ⟨later, split.symm, started, ?_, fun other => ?_, fun job member => ?_, before⟩
  · have most := length_admitted_lt standing idle
    have size := (crew h).size
    simp only [entryCount, started, List.length_append] at number
    omega
  · have one := length_admitted_le s other
    rw [← same, List.length_append] at one
    omega
  · obtain rfl := Option.some.inj (standing.symm.trans (before worker job member))
    simp at idle

/-- A job that was taken and not started yet, or that was turned away, is not started. -/
theorem Reachable.not_started_of_taken (sound : plan.graph.Sound) (h : Reachable plan s)
    {job : JobId} (taken : job ∈ s.held ∨ job ∈ s.turnedAway) : job ∉ s.started := by
  have distinct := (h.ledger sound).nodup_taken (h.readiness sound).distinct
  simp only [List.nodup_append', List.disjoint_append_left] at distinct
  intro started
  obtain held | away := taken
  · exact distinct.1.2.2.2 held started
  · exact distinct.2.2.2 started away

/-- After the report that stops a run, at most one job starts for each worker but the one that
reported, and only a job whose worker had looked at the stop flag by then. A worker that looks later
leaves without its job, which is never started. -/
theorem few_jobs_start_after_stop {jobs : List JobId} {edges : List Edge}
    (built : Graph.build jobs edges = .ok plan.graph) (h : Reachable plan s) (step : Step plan s t)
    (running : s.latch.stopped = false) (stopped : t.latch.stopped = true) :
    ∃ reporter cause, t.history = .reported reporter cause true :: s.history ∧
      ∀ u, Leads plan t u →
        (∃ later, u.history = later ++ t.history ∧
          u.started = t.started ++ gather Event.enteredJobs later ∧
          LateStarts plan t reporter later) ∧
        ∀ (worker : Nat) job, u.positions[worker]? = some (.checking job) → ∀ v, Leads plan u v →
          job ∉ v.started ∧ (v.positions[worker]? = some (.checking job) ∨
            v.positions[worker]? = some (.gone .stopped)) := by
  have sound := Graph.sound_of_build built
  have reached := h.next step
  obtain ⟨reporter, cause, aftermath, standing, same⟩ := step.stops running stopped
  have arrived : t.positions[reporter]? = some (.closing aftermath) := by
    have bound := (List.getElem?_eq_some_iff.mp standing).1
    simp [same, bound]
  refine ⟨reporter, cause, by rw [same]; rfl, fun u leads => ⟨?_, ?_⟩⟩
  · exact leads.lateStarts sound reached stopped arrived rfl
  · intro worker job checking v onward
    have later := leads.reachable reached
    have away := onward.turned_away later ((leads.grows reached).stopped stopped) checking
    refine ⟨(onward.reachable later).not_started_of_taken sound ?_, away.imp_right And.left⟩
    exact away.imp (fun still => mem_hands still (by simp)) And.right

/-- A diamond whose second job has panicked, while the third one is about to start. -/
def narrow : Pool := run (.diamond 3 (.panic "boom")) {} 16 (.start (.diamond 3 (.panic "boom")))

/-- The panic of the second job is reported first. Then the third job starts all the same, as the
only one after the stop. -/
theorem third_starts_late :
    let plan : Plan := .diamond 3 (.panic "boom")
    let failure : JobFailure := .ofPanic ⟨"2"⟩ "boom"
    let s := narrow.report 1 (.job failure) (.notify failure.detached)
    let t := s.enter plan 2 ⟨"3"⟩
    narrow.positions = [.taking, .reporting (.job failure) (.notify failure.detached),
        .entering ⟨"3"⟩] ∧ s.latch.stopped = true ∧ t.started = [⟨"1"⟩, ⟨"2"⟩, ⟨"3"⟩] ∧
      ∃ reporter cause, s.history = .reported reporter cause true :: narrow.history ∧
        ∃ later, t.history = later ++ s.history ∧ LateStarts plan s reporter later := by
  intro plan failure s t
  have positions : narrow.positions = [.taking,
      .reporting (.job failure) (.notify failure.detached), .entering ⟨"3"⟩] := by rfl
  have reached : Reachable plan narrow := reachable_run 16 .start
  have reports : narrow.positions[1]? =
      some (.reporting (.job failure) (.notify failure.detached)) := by rw [positions]; rfl
  have enters : s.positions[2]? = some (.entering ⟨"3"⟩) := by rfl
  have running : narrow.latch.stopped = false := by rfl
  have stopped : s.latch.stopped = true := by rfl
  obtain ⟨reporter, cause, first, late⟩ := few_jobs_start_after_stop Graph.build_diamond reached
    (.work reports rfl) running stopped
  obtain ⟨⟨later, split, -, starts⟩, -⟩ := late t (.next .here (.work enters rfl))
  exact ⟨positions, stopped, by rfl, reporter, cause, first, later, split, starts⟩

end

end Pool

end Precedence

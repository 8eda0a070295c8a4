import Precedence.Proofs.Pool.Reckoning
/-!
# What the observer is told

A worker tells the observer that a job starts, runs its body, and later tells how the body ended,
also when its failure comes too late to stop the run. In between it owes the observer that last
callback (`Position.owed`). `Tells` lists what a deed does to the callbacks: it starts such a debt,
pays it, or leaves everything as it was. So there is nothing to tell about a job but its start and
its end, both told by one worker (`Reachable.narration`), and nothing is owed when the run has
returned.
-/

namespace Precedence

/-- The job that a callback is about. -/
def Callback.job : Callback → JobId
  | started job | succeeded job => job
  | failed failure => failure.job

/-- What the observer is told when the body of a job has ended. -/
def Plan.lastCall (plan : Plan) (job : JobId) : Callback :=
  match JobFailure.ofOutcome? job (plan.outcome job) with
  | none => .succeeded job
  | some failure => .failed failure.detached

/-- What a worker that has reported a failure has yet to tell the observer. -/
def Aftermath.owed : Aftermath → List Callback
  | .notify failure => [.failed failure]
  | .leave | .unwind => []

/-- What a worker has yet to tell the observer about a job that it has started. -/
def Position.owed (plan : Plan) : Position → List Callback
  | .running job => [plan.lastCall job]
  | .praising job => [.succeeded job]
  | .reporting _ aftermath | .closing aftermath | .broadcasting aftermath
  | .waking aftermath => aftermath.owed
  | .lamenting failure => [.failed failure]
  | _ => []

/-- What a worker told the observer with an event. -/
@[simp] def Event.call? : Event → Option (Nat × Callback)
  | .called worker callback => some (worker, callback)
  | _ => none

/-- What the observer was told, in order, and by whom. -/
def calls (history : List Event) : List (Nat × Callback) := history.reverse.filterMap Event.call?

/-- What the observer was told about one job. -/
def callsAbout (job : JobId) (history : List Event) : List (Nat × Callback) :=
  (calls history).filter (·.2.job = job)

@[simp] theorem calls_nil : calls [] = [] := rfl

@[simp] theorem calls_cons (e : Event) (history : List Event) :
    calls (e :: history) = calls history ++ e.call?.toList := by
  simp only [calls, List.reverse_cons, List.filterMap_append, List.filterMap_cons]
  cases e.call? <;> rfl

@[simp] theorem calls_append (later earlier : List Event) :
    calls (later ++ earlier) = calls earlier ++ calls later := by
  simp [calls]

theorem mem_calls {history : List Event} {worker : Nat} {callback : Callback} :
    (worker, callback) ∈ calls history ↔ .called worker callback ∈ history := by
  simp only [calls, List.mem_filterMap, List.mem_reverse]
  constructor
  · rintro ⟨e, member, call⟩
    cases e <;> simp at call
    obtain ⟨rfl, rfl⟩ := call
    exact member
  · exact fun member => ⟨_, member, rfl⟩

theorem Plan.job_lastCall (plan : Plan) (job : JobId) : (plan.lastCall job).job = job := by
  unfold lastCall
  split
  · rfl
  · rename_i failure failed
    have same : failure.job = job := Pool.job_of_ofOutcome failed
    exact same

theorem Plan.lastCall_of_success {plan : Plan} {job : JobId} (fine : plan.outcome job = .success) :
    plan.lastCall job = .succeeded job := by
  simp [lastCall, fine, JobFailure.ofOutcome?]

namespace Pool

/-- What a deed tells the observer, and what its worker has yet to tell before and after it. -/
inductive Tells (plan : Plan) (s : Pool) (worker : Nat) (p q : Position) (t : Pool) : Prop where
  | nothing (owed : q.owed plan = p.owed plan) (told : calls t.history = calls s.history)
      (begun : t.begun = s.begun)
  | start (job : JobId) (announces : p = .announcing job) (owed : q.owed plan = [plan.lastCall job])
      (told : calls t.history = calls s.history ++ [(worker, .started job)])
      (begun : t.begun = s.begun ++ [job])
  | last (callback : Callback) (owed : p.owed plan = [callback]) (paid : q.owed plan = [])
      (told : calls t.history = calls s.history ++ [(worker, callback)]) (begun : t.begun = s.begun)

section
variable {plan : Plan} {s t : Pool} {worker : Nat} {p q : Position}

theorem Deed.tells (silent : ∀ callback, plan.observer callback = none)
    (done : Deed plan s worker p q t) : Tells plan s worker p q t := by
  cases done with
  | @begins job => exact .start job rfl rfl (by simp) (by simp [Pool.begun])
  | @praises job => exact .last (.succeeded job) rfl rfl (by simp) (by simp [Pool.begun])
  | @laments failure => exact .last (.failed failure) rfl rfl (by simp) (by simp [Pool.begun])
  | panicsAtStart loud | panicsAtSuccess loud | panicsAtFailure loud => simp [silent] at loud
  | succeeds fine =>
    exact .nothing (by simp [Position.owed, Plan.lastCall_of_success fine]) (by simp)
      (by simp [Pool.begun])
  | fails failed =>
    exact .nothing (by simp [Position.owed, Aftermath.owed, Plan.lastCall, failed]) (by simp)
      (by simp [Pool.begun])
  | @reportsLate _ aftermath | @wakes aftermath =>
    exact .nothing (by cases aftermath <;> rfl) (by cases aftermath <;> simp [Aftermath.parting])
      (by simp [Pool.begun, Aftermath.parting, gather_ite])
  | closes =>
    exact .nothing rfl (by simp only [place_history, close_history]; split <;> simp)
      (by simp [Pool.begun, gather_ite])
  | _ => exact .nothing rfl (by simp) (by simp [Pool.begun])

/-- A worker has yet to tell the observer something. -/
def Owes (plan : Plan) (s : Pool) (worker : Nat) (callback : Callback) : Prop :=
  ∃ p, s.positions[worker]? = some p ∧ callback ∈ p.owed plan

structure Narration (plan : Plan) (s : Pool) : Prop where
  /-- Who owes a last callback about a job has told the observer that the job starts. -/
  owed : ∀ worker callback, Owes plan s worker callback → callback = plan.lastCall callback.job ∧
    callsAbout callback.job s.history = [(worker, .started callback.job)]
  untold : ∀ v, v ∉ s.begun → callsAbout v s.history = []
  told : ∀ v ∈ s.begun, (∃ worker callback, Owes plan s worker callback ∧ callback.job = v) ∨
    ∃ worker, callsAbout v s.history = [(worker, .started v), (worker, plan.lastCall v)]

theorem owes_of_standing (standing : s.positions[worker]? = some p) {callback : Callback} :
    Owes plan s worker callback ↔ callback ∈ p.owed plan := by
  simp [Owes, standing]

/-- A debt of a worker does not depend on what another one does. -/
theorem Deed.owes_iff (standing : s.positions[worker]? = some p) (done : Deed plan s worker p q t)
    {other : Nat} (differ : other ≠ worker) {callback : Callback} :
    Owes plan t other callback ↔ Owes plan s other callback := by
  obtain kept | ⟨parked, taking⟩ := done.others standing differ
  · rw [Owes, Owes, kept]
  · simp [Owes, parked, taking, Position.owed]

theorem Chore.owes_iff (crew : Crew plan s) (chore : Chore plan s t) {other : Nat}
    {callback : Callback} : Owes plan t other callback ↔ Owes plan s other callback := by
  obtain kept | ⟨parked | unborn, taking⟩ := chore.others crew other
  · rw [Owes, Owes, kept]
  · simp [Owes, parked, taking, Position.owed]
  · simp [Owes, unborn, taking, Position.owed]

theorem Chore.calls_eq (chore : Chore plan s t) : calls t.history = calls s.history := by
  obtain ⟨news, noted, idle⟩ := chore.history
  have silent : calls news = [] := List.filterMap_eq_nil_iff.mpr fun e member => by
    have impersonal := idle e (List.mem_reverse.mp member)
    cases e <;> simp at impersonal ⊢
  rw [noted, calls_append, silent, List.append_nil]

theorem Chore.begun (chore : Chore plan s t) : t.begun = s.begun :=
  chore.gather (fun _ => rfl) (fun _ => rfl) rfl fun _ _ => rfl

section
variable {earlier later : List Event} {callback : Callback} {v : JobId}

theorem callsAbout_eq (told : calls later = calls earlier) (v : JobId) :
    callsAbout v later = callsAbout v earlier := by
  rw [callsAbout, told, callsAbout]

theorem callsAbout_same (told : calls later = calls earlier ++ [(worker, callback)])
    (about : callback.job = v) :
    callsAbout v later = callsAbout v earlier ++ [(worker, callback)] := by
  simp [callsAbout, told, about]

theorem callsAbout_other (told : calls later = calls earlier ++ [(worker, callback)])
    (about : v ≠ callback.job) : callsAbout v later = callsAbout v earlier := by
  simp [callsAbout, told, about.symm]

end

theorem narration_start (plan : Plan) : Narration plan (.start plan) where
  owed worker callback := by
    rintro ⟨p, standing, owed⟩
    obtain ⟨-, rfl⟩ : worker < plan.workers ∧ Position.unborn = p := by
      simpa [start, List.getElem?_replicate] using standing
    simp [Position.owed] at owed
  untold v _ := rfl
  told v begun := by simp [Pool.begun, start] at begun

namespace Narration

variable (h : Narration plan s)
include h

theorem of_same (owes : ∀ other callback, Owes plan t other callback ↔ Owes plan s other callback)
    (told : calls t.history = calls s.history) (begun : t.begun = s.begun) :
    Narration plan t where
  owed other callback owed := by
    rw [callsAbout_eq told]
    exact h.owed other callback ((owes other callback).mp owed)
  untold v unbegun := by
    rw [callsAbout_eq told]
    exact h.untold v (begun ▸ unbegun)
  told v inside := by
    simp only [callsAbout_eq told, owes]
    exact h.told v (begun ▸ inside)

section
variable (standing : s.positions[worker]? = some p) (done : Deed plan s worker p q t)
include standing done

theorem deed_start {job : JobId} (fresh : job ∉ s.begun) (announces : p = .announcing job)
    (owed : q.owed plan = [plan.lastCall job])
    (told : calls t.history = calls s.history ++ [(worker, .started job)])
    (begun : t.begun = s.begun ++ [job]) : Narration plan t := by
  have none := h.untold job fresh
  have mine : ∀ callback, Owes plan t worker callback ↔ callback = plan.lastCall job := by
    simp [owes_of_standing (done.arrives standing), owed]
  have before : ∀ callback, ¬ Owes plan s worker callback := by
    simp [owes_of_standing standing, announces, Position.owed]
  refine ⟨fun other callback owes => ?_, fun v unbegun => ?_, fun v inside => ?_⟩
  · by_cases here : other = worker
    · subst here
      obtain rfl := (mine callback).mp owes
      rw [plan.job_lastCall, callsAbout_same (v := job) told rfl, none]
      exact ⟨rfl, rfl⟩
    · obtain ⟨last, started⟩ := h.owed other callback ((done.owes_iff standing here).mp owes)
      refine ⟨last, (callsAbout_other told ?_).trans started⟩
      intro same
      simp [show callback.job = job from same, none] at started
  · rw [begun, List.mem_append, not_or] at unbegun
    rw [callsAbout_other told fun same => unbegun.2 (List.mem_singleton.mpr same)]
    exact h.untold v unbegun.1
  · obtain earlier | now := List.mem_append.mp (begun ▸ inside)
    · have other : v ≠ job := fun same => fresh (same ▸ earlier)
      rw [callsAbout_other told other]
      refine (h.told v earlier).imp_left fun ⟨w, callback, owes, about⟩ => ?_
      have differ : w ≠ worker := fun same => before callback (same ▸ owes)
      exact ⟨w, callback, (done.owes_iff standing differ).mpr owes, about⟩
    · obtain rfl := List.mem_singleton.mp now
      exact .inl ⟨worker, _, (mine _).mpr rfl, plan.job_lastCall v⟩

theorem deed_last {callback : Callback} (owed : p.owed plan = [callback]) (paid : q.owed plan = [])
    (told : calls t.history = calls s.history ++ [(worker, callback)]) (begun : t.begun = s.begun) :
    Narration plan t := by
  have mine : ∀ other, Owes plan s worker other ↔ other = callback := by
    simp [owes_of_standing standing, owed]
  have after : ∀ other, ¬ Owes plan t worker other := by
    simp [owes_of_standing (done.arrives standing), paid]
  obtain ⟨last, started⟩ := h.owed worker callback ((mine callback).mpr rfl)
  refine ⟨fun w other owes => ?_, fun v unbegun => ?_, fun v inside => ?_⟩
  · have differ : w ≠ worker := fun same => after other (same ▸ owes)
    obtain ⟨last', started'⟩ := h.owed w other ((done.owes_iff standing differ).mp owes)
    refine ⟨last', (callsAbout_other told fun same => differ ?_).trans started'⟩
    simpa [same, started, eq_comm] using started'
  · have none := h.untold v (begun ▸ unbegun)
    rw [callsAbout_other told fun same => ?_, none]
    simp [same, started] at none
  · obtain ⟨w, other, owes, about⟩ | ⟨w, both⟩ := h.told v (begun ▸ inside)
    · by_cases here : w = worker
      · subst here
        obtain rfl := (mine other).mp owes
        subst about
        exact .inr ⟨w, by rw [callsAbout_same told rfl, started, ← last]; rfl⟩
      · exact .inl ⟨w, other, (done.owes_iff standing here).mpr owes, about⟩
    · refine .inr ⟨w, (callsAbout_other told fun same => ?_).trans both⟩
      simp [same, started] at both

theorem deed (silent : ∀ callback, plan.observer callback = none)
    (fresh : ∀ job, p = .announcing job → job ∉ s.begun) : Narration plan t := by
  cases done.tells silent with
  | nothing owed told begun =>
    refine h.of_same (fun other callback => ?_) told begun
    by_cases here : other = worker
    · subst here
      rw [owes_of_standing standing, owes_of_standing (done.arrives standing), owed]
    · exact done.owes_iff standing here
  | start job announces owed told begun =>
    exact h.deed_start standing done (fresh job announces) announces owed told begun
  | last callback owed paid told begun => exact h.deed_last standing done owed paid told begun

end

end Narration

/-- The body of a job that was just started has not been entered. -/
theorem Chronicle.unbegun (chronicle : Chronicle plan s) (once : s.started.Nodup) {job : JobId}
    (standing : s.positions[worker]? = some (.announcing job)) : job ∉ s.begun := by
  have parts := (List.nodup_append'.mp (chronicle.begun.nodup_iff.mp once)).1
  have announced : job ∈ hands Position.unannounced s.positions := mem_hands standing (by simp)
  exact fun begun => (List.nodup_append'.mp parts).2.2 begun announced

theorem Reachable.narration (sound : plan.graph.Sound)
    (silent : ∀ callback, plan.observer callback = none) (h : Reachable plan s) :
    Narration plan s := by
  refine Reachable.invariant (narration_start plan) ?_ ?_ h
  · intro s t worker p q reached ih standing done
    refine ih.deed standing done silent fun job announces => ?_
    have once := (reached.ledger sound).nodup_started (reached.readiness sound).distinct
    exact reached.chronicle.unbegun once (announces ▸ standing)
  · intro s t reached ih chore
    exact ih.of_same (fun _ _ => chore.owes_iff (crew reached)) chore.calls_eq chore.begun

/-! ## What has been told when a job has succeeded, and when everybody has left -/

theorem mem_callsAbout {history : List Event} {v : JobId} {callback : Callback}
    (member : (worker, callback) ∈ callsAbout v history) : .called worker callback ∈ history :=
  mem_calls.mp (List.mem_filter.mp member).1

/-- Nothing, the start, or the start and the end have been told about a job. -/
theorem Narration.inTurn (h : Narration plan s) (v : JobId) :
    callsAbout v s.history = [] ∨ ∃ worker, callsAbout v s.history = [(worker, .started v)] ∨
      callsAbout v s.history = [(worker, .started v), (worker, plan.lastCall v)] := by
  by_cases begun : v ∈ s.begun
  · obtain ⟨worker, callback, owes, rfl⟩ | ⟨worker, both⟩ := h.told v begun
    · exact .inr ⟨worker, .inl (h.owed worker callback owes).2⟩
    · exact .inr ⟨worker, .inr both⟩
  · exact .inl (h.untold v begun)

/-- Who owes the news that a job has succeeded has not recorded it yet. -/
theorem busy_of_owed {v : JobId} (owed : .succeeded v ∈ p.owed plan) : v ∈ p.busy := by
  have ended {aftermath : Aftermath} : .succeeded v ∉ aftermath.owed := by
    cases aftermath <;> simp [Aftermath.owed]
  cases p with
  | running job =>
    have same : Callback.succeeded v = plan.lastCall job := List.mem_singleton.mp owed
    have about := congrArg Callback.job same
    rw [plan.job_lastCall] at about
    exact List.mem_singleton.mpr about
  | praising job => simpa [Position.owed] using owed
  | reporting | closing | broadcasting | waking => exact absurd owed ended
  | _ => simp [Position.owed] at owed

section
variable (silent : ∀ callback, plan.observer callback = none)
include silent

theorem Chronicle.completed_begun (chronicle : Chronicle plan s) (ledger : Ledger plan s)
    (distinct : (s.readied plan).Nodup) : s.completed ⊆ s.begun := by
  intro v completed
  have ended := ledger.nodup_ended distinct
  simp only [List.nodup_append', List.disjoint_append_left] at ended
  have announced : v ∉ hands Position.unannounced s.positions := by
    intro member
    obtain ⟨p, standing, holds⟩ := List.mem_flatMap.mp member
    refine ended.1.2.2 completed (List.mem_flatMap.mpr ⟨p, standing, ?_⟩)
    cases p <;> simp_all
  have entered := unbegun_of_silent silent s.history
  have started := chronicle.begun.mem_iff.mp (ledger.completed_subset completed)
  simpa [announced, entered, Pool.begun] using started

/-- By the time that a job is recorded the observer has been told of its success. -/
theorem Reachable.told_of_completed (sound : plan.graph.Sound) (h : Reachable plan s) {v : JobId}
    (completed : v ∈ s.completed) : ∃ worker, .called worker (.succeeded v) ∈ s.history := by
  have ledger := h.ledger sound
  have distinct := (h.readiness sound).distinct
  have narration := h.narration sound silent
  have last := Plan.lastCall_of_success (h.chronicle.outcome_of_completed completed)
  obtain ⟨worker, callback, owes, rfl⟩ | ⟨worker, both⟩ :=
    narration.told v (h.chronicle.completed_begun silent ledger distinct completed)
  · obtain ⟨p, standing, owed⟩ := owes
    have same := (narration.owed worker callback ⟨p, standing, owed⟩).1
    rw [last] at same
    have busy : callback.job ∈ s.busy := mem_hands standing (busy_of_owed (same ▸ owed))
    have ended := ledger.nodup_ended distinct
    simp only [List.nodup_append', List.disjoint_append_left] at ended
    exact absurd busy (ended.1.2.2 completed)
  · exact ⟨worker, mem_callsAbout (v := v) (by simp [both, last])⟩

end

/-- Before the observer is told that a job starts, it is told that the dependencies succeeded. -/
def Heralded (plan : Plan) (earlier : List Event) (e : Event) : Prop :=
  ∀ worker v, e = .called worker (.started v) → ∀ u ∈ plan.graph.dependencies v,
    ∃ other, .called other (.succeeded u) ∈ earlier

theorem Deed.heralded (standing : s.positions[worker]? = some p) (done : Deed plan s worker p q t)
    (ledger : Ledger plan s) (ready : Readiness plan s)
    (told : ∀ u ∈ s.completed, ∃ other, .called other (.succeeded u) ∈ s.history)
    (h : Throughout (Heralded plan) s.history) : Throughout (Heralded plan) t.history := by
  cases done with
  | @begins job | @panicsAtStart job =>
    have busy : job ∈ s.busy := mem_hands standing (by simp)
    have readied := ledger.started_readied (ledger.busy_subset busy)
    have first : Heralded plan s.history (.called worker (.started job)) := by
      intro other v same u dependency
      obtain ⟨rfl, rfl⟩ : worker = other ∧ job = v := by simpa using same
      exact told u (ready.preceding_completed ledger readied (.single dependency))
    simpa [Heralded] using And.intro first h
  | @reportsLate _ aftermath | @wakes aftermath =>
    cases aftermath <;> simpa [Heralded, Aftermath.parting] using h
  | closes =>
    simp only [place_history, close_history]
    split <;> simpa [Heralded] using h
  | _ => simpa [Heralded] using h

theorem Chore.heralded (chore : Chore plan s t) (h : Throughout (Heralded plan) s.history) :
    Throughout (Heralded plan) t.history := by
  obtain ⟨news, noted, idle⟩ := chore.history
  rw [noted]
  refine throughout_append h fun e fresh earlier worker v called => ?_
  simpa [called] using idle e fresh

theorem Reachable.heralded (sound : plan.graph.Sound)
    (silent : ∀ callback, plan.observer callback = none) (h : Reachable plan s) :
    Throughout (Heralded plan) s.history :=
  Reachable.invariant (I := fun s => Throughout (Heralded plan) s.history) (throughout_nil _)
    (fun reached ih standing done => done.heralded standing (reached.ledger sound)
      (reached.readiness sound) (fun _ => reached.told_of_completed silent sound) ih)
    (fun _ ih chore => chore.heralded ih) h

/-- When everybody has left, the observer has been told how the bodies of the started jobs ended. -/
theorem Narration.of_gone (h : Narration plan s) (chronicle : Chronicle plan s)
    (silent : ∀ callback, plan.observer callback = none)
    (alone : ∀ p ∈ s.positions, isGone p = true) (v : JobId) :
    (v ∉ s.started ∧ callsAbout v s.history = []) ∨ v ∈ s.started ∧
      ∃ worker, callsAbout v s.history = [(worker, .started v), (worker, plan.lastCall v)] := by
  have begun : v ∈ s.started ↔ v ∈ s.begun :=
    (chronicle.mem_started_of_gone alone silent).trans mem_begun.symm
  rw [begun]
  by_cases inside : v ∈ s.begun
  · refine .inr ⟨inside, (h.told v inside).resolve_left ?_⟩
    rintro ⟨worker, callback, ⟨p, standing, owed⟩, -⟩
    have left := alone p (List.mem_of_getElem? standing)
    cases p with
    | gone exit => simp [Position.owed] at owed
    | _ => simp [isGone] at left
  · exact .inl ⟨inside, h.untold v inside⟩

end

end Pool

end Precedence

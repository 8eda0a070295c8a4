import Precedence.Pool.Step
/-!
# What one action of a pool can do

`Deed` lists what an action of a worker does, one case for each way it can go, and `Duty` the same
for the orchestrator; `deed_or_duty` says that every `Step` is one of them. A `Chore` is a step that
is no deed. `Reachable.invariant` packages the induction over interleavings: what holds at the start
and is kept by every deed and every chore holds in every reachable state. `Leads.invariant` does the
same for what holds from some state on.
-/

namespace Precedence

/-- Where a worker goes once it has finished reporting a failure. -/
def Aftermath.next : Aftermath → Position
  | .notify failure => .lamenting failure
  | .leave | .unwind => .gone .failed

/-- What is noted when a worker has finished reporting a failure. -/
def Aftermath.parting (worker : Nat) (aftermath : Aftermath) : List Event :=
  if aftermath = .leave then [.left worker .failed] else []

/-- What becomes of the orchestrator when the tally is notified. -/
def Stage.woken : Stage → Stage
  | .asleep => .watching
  | stage => stage

/-- Whether an event is about the run as a whole, and not about a worker or a job. -/
@[simp] def Event.impersonal : Event → Bool
  | .spawned _ | .poolReady _ | .closed | .settled _ _ => true
  | _ => false

/-- What becomes of a worker when the queue notifies everyone. -/
def Position.woken (p : Position) : Position := if p = .parked then .taking else p

namespace Pool

variable (s : Pool) (worker : Nat)

@[simp] theorem note_toBoard (e : Event) : (s.note e).toBoard = s.toBoard := rfl
@[simp] theorem note_positions (e : Event) : (s.note e).positions = s.positions := rfl
@[simp] theorem note_stage (e : Event) : (s.note e).stage = s.stage := rfl
@[simp] theorem note_history (e : Event) : (s.note e).history = e :: s.history := rfl

@[simp] theorem place_toBoard (p : Position) : (s.place worker p).toBoard = s.toBoard := rfl
@[simp] theorem place_positions (p : Position) :
    (s.place worker p).positions = s.positions.set worker p := rfl
@[simp] theorem place_stage (p : Position) : (s.place worker p).stage = s.stage := rfl
@[simp] theorem place_history (p : Position) : (s.place worker p).history = s.history := rfl

@[simp] theorem leave_toBoard (e : Exit) : (s.leave worker e).toBoard = s.toBoard := rfl
@[simp] theorem leave_positions (e : Exit) :
    (s.leave worker e).positions = s.positions.set worker (.gone e) := rfl
@[simp] theorem leave_stage (e : Exit) : (s.leave worker e).stage = s.stage := rfl
@[simp] theorem leave_history (e : Exit) :
    (s.leave worker e).history = .left worker e :: s.history := rfl

@[simp] theorem unwind_toBoard (m : String) : (s.unwind worker m).toBoard = s.toBoard := rfl
@[simp] theorem unwind_positions (m : String) : (s.unwind worker m).positions =
    s.positions.set worker (.reporting (.internal (.workerPanicked m)) .unwind) := rfl
@[simp] theorem unwind_stage (m : String) : (s.unwind worker m).stage = s.stage := rfl
@[simp] theorem unwind_history (m : String) :
    (s.unwind worker m).history = .unwound worker m :: s.history := rfl

@[simp] theorem conclude_toBoard (a : Aftermath) : (s.conclude worker a).toBoard = s.toBoard := by
  cases a <;> rfl
@[simp] theorem conclude_positions (a : Aftermath) :
    (s.conclude worker a).positions = s.positions.set worker a.next := by cases a <;> rfl
@[simp] theorem conclude_stage (a : Aftermath) : (s.conclude worker a).stage = s.stage := by
  cases a <;> rfl
@[simp] theorem conclude_history (a : Aftermath) :
    (s.conclude worker a).history = a.parting worker ++ s.history := by cases a <;> rfl

@[simp] theorem wakeAll_toBoard : s.wakeAll.toBoard = s.toBoard := rfl
@[simp] theorem wakeAll_positions : s.wakeAll.positions = s.positions.map Position.woken := rfl
@[simp] theorem wakeAll_stage : s.wakeAll.stage = s.stage := rfl
@[simp] theorem wakeAll_history : s.wakeAll.history = s.history := rfl

@[simp] theorem wakeOrchestrator_toBoard : s.wakeOrchestrator.toBoard = s.toBoard := by
  unfold wakeOrchestrator; split <;> rfl
@[simp] theorem wakeOrchestrator_positions : s.wakeOrchestrator.positions = s.positions := by
  unfold wakeOrchestrator; split <;> rfl
@[simp] theorem wakeOrchestrator_stage : s.wakeOrchestrator.stage = s.stage.woken := by
  unfold wakeOrchestrator Stage.woken; split <;> simp_all
@[simp] theorem wakeOrchestrator_history : s.wakeOrchestrator.history = s.history := by
  unfold wakeOrchestrator; split <;> rfl

@[simp] theorem close_toBoard :
    s.close.toBoard = { s.toBoard with backlog := s.backlog.close } := by
  unfold close Backlog.close
  split
  · rename_i closed; rw [← closed]
  · rfl
@[simp] theorem close_positions : s.close.positions = s.positions := by
  unfold close; split <;> rfl
@[simp] theorem close_stage : s.close.stage = s.stage := by unfold close; split <;> rfl
@[simp] theorem close_history :
    s.close.history = (if s.backlog.closed then [] else [.closed]) ++ s.history := by
  unfold close; split <;> rfl

/-- What an action of a worker does, one case for each way it can go: from one position to another,
and from one pool to the next. -/
inductive Deed (plan : Plan) (s : Pool) (worker : Nat) : Position → Position → Pool → Prop where
  | takes {job : JobId} {rest : List JobId} (waits : s.backlog.waiting = job :: rest) :
      Deed plan s worker .taking (.checking job)
        ({ s with backlog := { s.backlog with waiting := rest } }.place worker (.checking job))
  | drains (empty : s.backlog.waiting = []) (closed : s.backlog.closed = true) :
      Deed plan s worker .taking (.gone .drained) (s.leave worker .drained)
  | parks (empty : s.backlog.waiting = []) (opened : s.backlog.closed = false) :
      Deed plan s worker .taking .parked (s.place worker .parked)
  | turnsAway {job : JobId} (stopped : s.latch.stopped = true) :
      Deed plan s worker (.checking job) (.gone .stopped)
        ((s.note (.turnedAway worker job)).leave worker .stopped)
  | passes {job : JobId} (running : s.latch.stopped = false) :
      Deed plan s worker (.checking job) (.entering job) (s.place worker (.entering job))
  | enters {job : JobId} (listed : job ∈ plan.graph.jobs) :
      Deed plan s worker (.entering job) (.announcing job)
        (({ s with started := s.started ++ [job] }.note (.entered worker job)).place worker
          (.announcing job))
  | rejects {job : JobId} (unlisted : job ∉ plan.graph.jobs) :
      Deed plan s worker (.entering job)
        (.reporting (.internal (Breach.unlisted job).toError) .leave)
        (s.place worker (.reporting (.internal (Breach.unlisted job).toError) .leave))
  | begins {job : JobId} (silent : plan.observer (.started job) = none) :
      Deed plan s worker (.announcing job) (.running job)
        (((s.note (.called worker (.started job))).note (.began worker job)).place worker
          (.running job))
  | panicsAtStart {job : JobId} {message : String}
      (loud : plan.observer (.started job) = some message) :
      Deed plan s worker (.announcing job)
        (.reporting (.internal (.workerPanicked message)) .unwind)
        ((s.note (.called worker (.started job))).unwind worker message)
  | succeeds {job : JobId} (fine : plan.outcome job = .success) :
      Deed plan s worker (.running job) (.praising job)
        ((s.note (.ended worker job (plan.outcome job))).place worker (.praising job))
  | fails {job : JobId} {failure : JobFailure}
      (failed : JobFailure.ofOutcome? job (plan.outcome job) = some failure) :
      Deed plan s worker (.running job) (.reporting (.job failure) (.notify failure.detached))
        ((s.note (.ended worker job (plan.outcome job))).place worker
          (.reporting (.job failure) (.notify failure.detached)))
  | praises {job : JobId} (silent : plan.observer (.succeeded job) = none) :
      Deed plan s worker (.praising job) (.recording job)
        ((s.note (.called worker (.succeeded job))).place worker (.recording job))
  | panicsAtSuccess {job : JobId} {message : String}
      (loud : plan.observer (.succeeded job) = some message) :
      Deed plan s worker (.praising job)
        (.reporting (.internal (.workerPanicked message)) .unwind)
        ((s.note (.called worker (.succeeded job))).unwind worker message)
  | records {job : JobId} :
      Deed plan s worker (.recording job) (.counting job)
        (({ s with completed := s.completed ++ [job] }.note (.recorded worker job)).place worker
          (.counting job))
  | overcounts {job : JobId} (free : s.tallyHeld = false)
      (beyond : s.tally.total < s.tally.finished + 1) :
      Deed plan s worker (.counting job)
        (.reporting (.internal
          (Breach.overcount s.tally.mark.finished s.tally.mark.total).toError) .leave)
        (({ s with tally := s.tally.mark }.note
          (.counted worker s.tally.mark.finished)).place worker (.reporting (.internal
            (Breach.overcount s.tally.mark.finished s.tally.mark.total).toError) .leave))
  | countsLast {job : JobId} (free : s.tallyHeld = false)
      (last : s.tally.finished + 1 = s.tally.total) :
      Deed plan s worker (.counting job) (.gone .completedLast)
        (({ s with tally := s.tally.mark }.note
          (.counted worker s.tally.mark.finished)).wakeOrchestrator.leave worker .completedLast)
  | counts {job : JobId} (free : s.tallyHeld = false)
      (below : s.tally.finished + 1 < s.tally.total) :
      Deed plan s worker (.counting job) (.releasing job)
        (({ s with tally := s.tally.mark }.note
          (.counted worker s.tally.mark.finished)).place worker (.releasing job))
  | releases {job : JobId} {ready : List JobId} (released : s.countdown.released job = .ok ready) :
      Deed plan s worker (.releasing job) (.offering ready)
        (({ s with countdown := s.countdown.finish job }.note
          (.released worker job (s.countdown.report job).steps ready)).place worker
          (.offering ready))
  | miscounts {job : JobId} {error : CountdownError}
      (failed : s.countdown.released job = .error error) :
      Deed plan s worker (.releasing job)
        (.reporting (.internal (Breach.miscount error).toError) .leave)
        (({ s with countdown := s.countdown.finish job }.note
          (.released worker job (s.countdown.report job).steps [])).place worker
          (.reporting (.internal (Breach.miscount error).toError) .leave))
  | returns : Deed plan s worker (.offering []) .taking (s.place worker .taking)
  | withholds {job : JobId} {ready : List JobId} (stopped : s.latch.stopped = true) :
      Deed plan s worker (.offering (job :: ready)) (.offering ready)
        ((s.note (.withheld worker job)).place worker (.offering ready))
  | offers {job : JobId} {ready : List JobId} (running : s.latch.stopped = false) :
      Deed plan s worker (.offering (job :: ready)) (.pushing job ready)
        (s.place worker (.pushing job ready))
  | refuses {job : JobId} {ready : List JobId} (closed : s.backlog.closed = true) :
      Deed plan s worker (.pushing job ready) (.offering ready)
        ((s.note (.refused job)).place worker (.offering ready))
  | pushes {job : JobId} {ready : List JobId} (opened : s.backlog.closed = false) :
      Deed plan s worker (.pushing job ready) (.notifying ready)
        (({ s with backlog := s.backlog.push job }.note
          (.enqueued job s.backlog.waiting.length)).place worker (.notifying ready))
  | notifies {other : Nat} {ready : List JobId} (asleep : s.positions[other]? = some .parked) :
      Deed plan s worker (.notifying ready) (.offering ready)
        ((s.place other .taking).place worker (.offering ready))
  | notifiesNobody {ready : List JobId} (nobody : .parked ∉ s.positions) :
      Deed plan s worker (.notifying ready) (.offering ready) (s.place worker (.offering ready))
  | reportsLate {cause : StopCause} {aftermath : Aftermath} (stopped : s.latch.stopped = true) :
      Deed plan s worker (.reporting cause aftermath) aftermath.next
        ((s.note (.reported worker cause false)).conclude worker aftermath)
  | reports {cause : StopCause} {aftermath : Aftermath} (running : s.latch.stopped = false) :
      Deed plan s worker (.reporting cause aftermath) (.closing aftermath)
        ({ s.note (.reported worker cause true) with latch := ⟨true, some cause⟩ }.place worker
          (.closing aftermath))
  | closes {aftermath : Aftermath} :
      Deed plan s worker (.closing aftermath) (.broadcasting aftermath)
        (s.close.place worker (.broadcasting aftermath))
  | broadcasts {aftermath : Aftermath} :
      Deed plan s worker (.broadcasting aftermath) (.waking aftermath)
        (s.wakeAll.place worker (.waking aftermath))
  | wakes {aftermath : Aftermath} (free : s.tallyHeld = false) :
      Deed plan s worker (.waking aftermath) aftermath.next
        (s.wakeOrchestrator.conclude worker aftermath)
  | laments {failure : JobFailure} (silent : plan.observer (.failed failure) = none) :
      Deed plan s worker (.lamenting failure) (.gone .failed)
        ((s.note (.called worker (.failed failure))).leave worker .failed)
  | panicsAtFailure {failure : JobFailure} {message : String}
      (loud : plan.observer (.failed failure) = some message) :
      Deed plan s worker (.lamenting failure)
        (.reporting (.internal (.workerPanicked message)) .unwind)
        ((s.note (.called worker (.failed failure))).unwind worker message)

/-- What an action of the orchestrator does. -/
inductive Duty (plan : Plan) (s : Pool) : Pool → Prop where
  | spawns {n : Nat} (at_ : s.stage = .spawning n) (room : n < plan.workers) :
      Duty plan s { (s.note (.spawned n)).place n .taking with stage := .spawning (n + 1) }
  | assembles {n : Nat} (at_ : s.stage = .spawning n) (full : plan.workers ≤ n) :
      Duty plan s { s.note (.poolReady n) with stage := .watching }
  | settles (at_ : s.stage = .watching) (settled : s.tally.settled s.latch.stopped = true) :
      Duty plan s { s.note (.settled s.tally.finished s.latch.stopped) with stage := .closing }
  | dozes (at_ : s.stage = .watching) (unsettled : s.tally.settled s.latch.stopped = false) :
      Duty plan s { s with stage := .dozing }
  | sleeps (at_ : s.stage = .dozing) : Duty plan s { s with stage := .asleep }
  | closes (at_ : s.stage = .closing) : Duty plan s { s.close with stage := .broadcasting }
  | broadcasts (at_ : s.stage = .broadcasting) : Duty plan s { s.wakeAll with stage := .joining }
  | returns (at_ : s.stage = .joining) (alone : ∀ p ∈ s.positions, isGone p = true) :
      Duty plan s { s with stage := .returned (s.result plan) }

/-- What happens without a worker: a duty of the orchestrator, or a wakeup that nobody sent. -/
inductive Chore (plan : Plan) (s t : Pool) : Prop where
  | duty (done : Duty plan s t)
  | stray (woken : Stray s t)

section
variable {plan : Plan} {s t : Pool} {worker : Nat}

theorem deed_of_take : ∃ q, Deed plan s worker .taking q (s.take worker) := by
  unfold take Backlog.take
  cases waits : s.backlog.waiting with
  | cons job rest => exact ⟨_, .takes waits⟩
  | nil =>
    cases closed : s.backlog.closed with
    | true => exact ⟨_, .drains waits closed⟩
    | false => exact ⟨_, .parks waits closed⟩

theorem deed_of_check {job : JobId} :
    ∃ q, Deed plan s worker (.checking job) q (s.check worker job) := by
  unfold check
  split
  · rename_i stopped; exact ⟨_, .turnsAway stopped⟩
  · rename_i running; exact ⟨_, .passes (by simpa using running)⟩

theorem deed_of_enter {job : JobId} :
    ∃ q, Deed plan s worker (.entering job) q (s.enter plan worker job) := by
  unfold enter
  split
  · rename_i listed; exact ⟨_, .enters listed⟩
  · rename_i unlisted; exact ⟨_, .rejects unlisted⟩

/-- A callback either panics or lets its worker go on. -/
theorem deed_of_call {p q : Position} {callback : Callback} {next : Pool → Pool}
    (silent : plan.observer callback = none →
      Deed plan s worker p q (next (s.note (.called worker callback))))
    (loud : ∀ {message}, plan.observer callback = some message →
      Deed plan s worker p (.reporting (.internal (.workerPanicked message)) .unwind)
        ((s.note (.called worker callback)).unwind worker message)) :
    ∃ q, Deed plan s worker p q (s.call plan worker callback next) := by
  cases panics : plan.observer callback with
  | none => exact ⟨_, by simpa only [call, panics] using silent panics⟩
  | some message => exact ⟨_, by simpa only [call, panics] using loud panics⟩

theorem deed_of_finishBody {job : JobId} :
    ∃ q, Deed plan s worker (.running job) q (s.finishBody plan worker job) := by
  unfold finishBody
  cases failed : JobFailure.ofOutcome? job (plan.outcome job) with
  | some failure => exact ⟨_, .fails failed⟩
  | none => exact ⟨_, .succeeds (JobFailure.ofOutcome?_eq_none.mp failed)⟩

theorem deed_of_count {job : JobId} (free : s.tallyHeld = false) :
    ∃ q, Deed plan s worker (.counting job) q (s.count worker job) := by
  simp only [count]
  split
  · rename_i beyond; exact ⟨_, .overcounts free beyond⟩
  · rename_i enough
    split
    · rename_i last; exact ⟨_, .countsLast free last⟩
    · rename_i differ
      refine ⟨_, .counts free ?_⟩
      simp only [note_toBoard, Tally.mark] at enough differ
      omega

theorem deed_of_release {job : JobId} :
    ∃ q, Deed plan s worker (.releasing job) q (s.release worker job) := by
  simp only [release]
  split
  · rename_i ready released; exact ⟨_, .releases released⟩
  · rename_i error failed; exact ⟨_, .miscounts failed⟩

theorem deed_of_offer {ready : List JobId} :
    ∃ q, Deed plan s worker (.offering ready) q (s.offer worker ready) := by
  cases ready with
  | nil => exact ⟨_, .returns⟩
  | cons job ready =>
    simp only [offer]
    split
    · rename_i stopped; exact ⟨_, .withholds stopped⟩
    · rename_i running; exact ⟨_, .offers (by simpa using running)⟩

theorem deed_of_push {job : JobId} {ready : List JobId} :
    ∃ q, Deed plan s worker (.pushing job ready) q (s.push worker job ready) := by
  unfold push
  split
  · rename_i closed; exact ⟨_, .refuses closed⟩
  · rename_i opened; exact ⟨_, .pushes (by simpa using opened)⟩

theorem deed_of_report {cause : StopCause} {aftermath : Aftermath} :
    ∃ q, Deed plan s worker (.reporting cause aftermath) q (s.report worker cause aftermath) := by
  unfold report StopLatch.admits StopLatch.report
  cases stopped : s.latch.stopped with
  | true => exact ⟨_, .reportsLate stopped⟩
  | false => exact ⟨_, .reports stopped⟩

theorem deed_of_act {p : Position} (acts : s.act plan worker p = some t) :
    ∃ q, Deed plan s worker p q t := by
  cases p with
  | unborn | parked | gone | notifying => simp [act] at acts
  | taking => exact Option.some.inj acts ▸ deed_of_take
  | checking => exact Option.some.inj acts ▸ deed_of_check
  | entering => exact Option.some.inj acts ▸ deed_of_enter
  | announcing => exact Option.some.inj acts ▸ deed_of_call .begins .panicsAtStart
  | running => exact Option.some.inj acts ▸ deed_of_finishBody
  | praising => exact Option.some.inj acts ▸ deed_of_call .praises .panicsAtSuccess
  | recording => exact Option.some.inj acts ▸ ⟨_, .records⟩
  | counting =>
    simp only [act] at acts
    split at acts
    · simp at acts
    · rename_i free; exact Option.some.inj acts ▸ deed_of_count (by simpa using free)
  | releasing => exact Option.some.inj acts ▸ deed_of_release
  | offering => exact Option.some.inj acts ▸ deed_of_offer
  | pushing => exact Option.some.inj acts ▸ deed_of_push
  | reporting => exact Option.some.inj acts ▸ deed_of_report
  | closing => exact Option.some.inj acts ▸ ⟨_, .closes⟩
  | broadcasting => exact Option.some.inj acts ▸ ⟨_, .broadcasts⟩
  | waking =>
    simp only [act] at acts
    split at acts
    · simp at acts
    · rename_i free; exact Option.some.inj acts ▸ ⟨_, .wakes (by simpa using free)⟩
  | lamenting => exact Option.some.inj acts ▸ deed_of_call .laments .panicsAtFailure

theorem duty_of_orchestrate (acts : s.orchestrate plan = some t) : Duty plan s t := by
  unfold orchestrate at acts
  split at acts
  · rename_i n at_
    split at acts
    · rename_i room; exact Option.some.inj acts ▸ .spawns at_ room
    · rename_i full; exact Option.some.inj acts ▸ .assembles at_ (by omega)
  · rename_i at_
    split at acts
    · rename_i settled; exact Option.some.inj acts ▸ .settles at_ settled
    · rename_i unsettled; exact Option.some.inj acts ▸ .dozes at_ (by simpa using unsettled)
  · rename_i at_; exact Option.some.inj acts ▸ .sleeps at_
  · rename_i at_; exact Option.some.inj acts ▸ .closes at_
  · rename_i at_; exact Option.some.inj acts ▸ .broadcasts at_
  · rename_i at_
    split at acts
    · rename_i alone; exact Option.some.inj acts ▸ .returns at_ (by simpa using alone)
    · simp at acts
  all_goals simp at acts

/-- Every step is a deed of a worker or a duty of the orchestrator. -/
theorem deed_or_duty (step : Step plan s t) :
    (∃ worker p q, s.positions[worker]? = some p ∧ Deed plan s worker p q t) ∨ Duty plan s t := by
  cases step with
  | work standing acts =>
    obtain ⟨q, done⟩ := deed_of_act acts
    exact .inl ⟨_, _, q, standing, done⟩
  | notify standing asleep => exact .inl ⟨_, _, _, standing, .notifies asleep⟩
  | notifyNobody standing nobody => exact .inl ⟨_, _, _, standing, .notifiesNobody nobody⟩
  | orchestrate acts => exact .inr (duty_of_orchestrate acts)

theorem Deed.history {p q : Position} (done : Deed plan s worker p q t) :
    s.history <:+ t.history := by
  cases done with
  | reportsLate =>
    simpa using (List.suffix_cons _ s.history).trans (List.suffix_append (Aftermath.parting ..) _)
  | _ => simp [List.suffix_cons_iff, List.suffix_append]

theorem Chore.history (chore : Chore plan s t) :
    ∃ news, t.history = news ++ s.history ∧ ∀ e ∈ news, e.impersonal = true := by
  cases chore with
  | duty done =>
    cases done with
    | @spawns n => exact ⟨[.spawned n], rfl, by simp⟩
    | @assembles n => exact ⟨[.poolReady n], rfl, by simp⟩
    | settles => exact ⟨[.settled _ _], rfl, by simp⟩
    | closes => exact ⟨_, close_history s, by split <;> simp⟩
    | _ => exact ⟨[], rfl, by simp⟩
  | stray woken => cases woken <;> exact ⟨[], rfl, by simp⟩

/-- What holds at the start and is kept by every deed and every chore holds in every reachable
state. -/
theorem Reachable.invariant {I : Pool → Prop} (start : I (.start plan))
    (deed : ∀ {s t worker p q}, Reachable plan s → I s → s.positions[worker]? = some p →
      Deed plan s worker p q t → I t)
    (chore : ∀ {s t}, Reachable plan s → I s → Chore plan s t → I t)
    (h : Reachable plan s) : I s := by
  induction h with
  | start => exact start
  | next reached step ih =>
    obtain ⟨_, _, _, standing, done⟩ | done := deed_or_duty step
    · exact deed reached ih standing done
    · exact chore reached ih (.duty done)
  | stray reached woken ih => exact chore reached ih (.stray woken)

/-- A state that some interleaving reaches from another one. -/
inductive Leads (plan : Plan) (s : Pool) : Pool → Prop where
  | here : Leads plan s s
  | next {t u : Pool} : Leads plan s t → Step plan t u → Leads plan s u
  | stray {t u : Pool} : Leads plan s t → Stray t u → Leads plan s u

theorem Leads.reachable (h : Reachable plan s) (leads : Leads plan s t) : Reachable plan t := by
  induction leads with
  | here => exact h
  | next _ step ih => exact .next ih step
  | stray _ woken ih => exact .stray ih woken

/-- What holds in a state and is kept by every deed and every chore holds in every later state. -/
theorem Leads.invariant {I : Pool → Prop} (h : Reachable plan s) (here : I s)
    (deed : ∀ {t u worker p q}, Reachable plan t → I t → t.positions[worker]? = some p →
      Deed plan t worker p q u → I u)
    (chore : ∀ {t u}, Reachable plan t → I t → Chore plan t u → I u)
    (leads : Leads plan s t) : I t := by
  induction leads with
  | here => exact here
  | next before step ih =>
    obtain ⟨_, _, _, standing, done⟩ | done := deed_or_duty step
    · exact deed (before.reachable h) ih standing done
    · exact chore (before.reachable h) ih (.duty done)
  | stray before woken ih => exact chore (before.reachable h) ih (.stray woken)

end

end Pool

end Precedence

import Mathlib.Data.List.Nodup
import Precedence.Proofs.Pool.Census
/-!
# The ledger of a run

A job that has become ready passes from hand to hand: it is released, offered, accepted by the
queue, taken, started, recorded as succeeded, counted, and released from in turn. `Ledger` says that
it is never lost and never doubled on the way: at every stage the jobs that came in are, up to
order, those that went on, those in the hands of workers, and those that were dropped.
`Reachable.ledger` proves it for every interleaving, whatever the jobs and the observer do.
-/

namespace Precedence

namespace Position

/-- Jobs that became ready and have yet to be pushed. -/
@[simp] def offered : Position → List JobId
  | .offering ready | .notifying ready => ready
  | .pushing job ready => job :: ready
  | _ => []

/-- A job that was taken from the queue and has yet to be started. -/
@[simp] def held : Position → List JobId
  | .checking job | .entering job => [job]
  | _ => []

/-- A started job that has yet to be recorded as succeeded. -/
@[simp] def busy : Position → List JobId
  | .announcing job | .running job | .praising job | .recording job => [job]
  | _ => []

/-- A job that has succeeded and has yet to be counted. -/
@[simp] def uncounted : Position → List JobId
  | .counting job => [job]
  | _ => []

/-- A counted job that has yet to release its dependents. -/
@[simp] def unreleased : Position → List JobId
  | .releasing job => [job]
  | _ => []

end Position

namespace Event

/-- Jobs that became ready with this event. -/
@[simp] def readyJobs : Event → List JobId
  | .released _ _ _ ready => ready
  | _ => []

@[simp] def acceptedJobs : Event → List JobId
  | .enqueued job _ => [job]
  | _ => []

/-- A ready job that was not enqueued. -/
@[simp] def droppedJobs : Event → List JobId
  | .refused job | .withheld _ job => [job]
  | _ => []

@[simp] def turnedAwayJobs : Event → List JobId
  | .turnedAway _ job => [job]
  | _ => []

/-- A started job that will not be recorded: its body failed, or a callback about it panicked. -/
@[simp] def spoiledJobs (plan : Plan) : Event → List JobId
  | .ended _ job outcome => if outcome = .success then [] else [job]
  | .called _ (.started job) => if plan.observer (.started job) = none then [] else [job]
  | .called _ (.succeeded job) => if plan.observer (.succeeded job) = none then [] else [job]
  | _ => []

/-- A job whose dependents were counted down. -/
@[simp] def releasedJobs : Event → List JobId
  | .released _ job _ _ => [job]
  | _ => []

end Event

/-- What the events of a history say, in the order in which they happened. -/
def gather (f : Event → List JobId) (history : List Event) : List JobId :=
  history.reverse.flatMap f

@[simp] theorem gather_nil (f : Event → List JobId) : gather f [] = [] := rfl

@[simp] theorem gather_cons (f : Event → List JobId) (e : Event) (history : List Event) :
    gather f (e :: history) = gather f history ++ f e := by
  simp [gather]

@[simp] theorem gather_append (f : Event → List JobId) (later earlier : List Event) :
    gather f (later ++ earlier) = gather f earlier ++ gather f later := by
  simp [gather]

theorem mem_gather {f : Event → List JobId} {history : List Event} {job : JobId} :
    job ∈ gather f history ↔ ∃ e ∈ history, job ∈ f e := by
  simp [gather]

theorem gather_subset {f : Event → List JobId} {earlier history : List Event}
    (grows : earlier <:+ history) : gather f earlier ⊆ gather f history := by
  obtain ⟨later, rfl⟩ := grows
  simp

theorem gather_ite (f : Event → List JobId) (c : Prop) [Decidable c] (a b : List Event) :
    gather f (if c then a else b) = if c then gather f a else gather f b :=
  apply_ite (gather f) c a b

namespace Pool

/-- Every job that has become ready so far. -/
def readied (plan : Plan) (s : Pool) : List JobId :=
  plan.graph.roots ++ gather Event.readyJobs s.history

/-- The jobs that the queue has accepted so far, in order. -/
def accepted (plan : Plan) (s : Pool) : List JobId :=
  plan.graph.roots ++ gather Event.acceptedJobs s.history

/-- Ready jobs that were not enqueued. -/
def dropped (s : Pool) : List JobId := gather Event.droppedJobs s.history

/-- Jobs that a worker took and did not start. -/
def turnedAway (s : Pool) : List JobId := gather Event.turnedAwayJobs s.history

/-- Started jobs that did not succeed. -/
def spoiled (plan : Plan) (s : Pool) : List JobId := gather (Event.spoiledJobs plan) s.history

/-- Jobs whose dependents were counted down, in order. -/
def released (s : Pool) : List JobId := gather Event.releasedJobs s.history

/-- Ready jobs on the way to the queue. -/
def offered (s : Pool) : List JobId := hands Position.offered s.positions

/-- Jobs between the queue and their start. -/
def held (s : Pool) : List JobId := hands Position.held s.positions

/-- Started jobs on the way to success. -/
def busy (s : Pool) : List JobId := hands Position.busy s.positions

/-- Succeeded jobs that are not counted yet. -/
def uncounted (s : Pool) : List JobId := hands Position.uncounted s.positions

/-- Counted jobs that have not released their dependents yet. -/
def unreleased (s : Pool) : List JobId := hands Position.unreleased s.positions

/-- No job is lost or doubled between becoming ready and releasing its dependents. -/
structure Ledger (plan : Plan) (s : Pool) : Prop where
  readied : (s.readied plan).Perm (s.accepted plan ++ s.offered ++ s.dropped)
  accepted : (s.accepted plan).Perm (s.backlog.waiting ++ s.held ++ s.started ++ s.turnedAway)
  started : s.started.Perm (s.completed ++ s.busy ++ s.spoiled plan)
  /-- Only a job that was counted as the last one does not go on to release its dependents. -/
  completed : ∃ last, s.completed.Perm (s.uncounted ++ s.unreleased ++ s.released ++ last) ∧
    (last ≠ [] → s.tally.total ≤ s.tally.finished)
  finished : s.tally.finished + s.uncounted.length = s.completed.length
  total : s.tally.total = plan.graph.jobs.length
  enqueued : s.backlog.accepted = (s.accepted plan).length

theorem ledger_start (plan : Plan) : Ledger plan (.start plan) := by
  have idle : ∀ {f : Position → List JobId}, f .unborn = [] →
      hands f (start plan).positions = [] := fun none => hands_replicate _ none
  have offered : (start plan).offered = [] := idle rfl
  have held : (start plan).held = [] := idle rfl
  have busy : (start plan).busy = [] := idle rfl
  have uncounted : (start plan).uncounted = [] := idle rfl
  have unreleased : (start plan).unreleased = [] := idle rfl
  refine ⟨?_, ?_, ?_, ⟨[], ?_, by simp⟩, ?_, rfl, ?_⟩
  · rw [offered]
    simp [readied, accepted, dropped, start]
  · rw [held]
    simp [accepted, turnedAway, start, Board.start, Backlog.pushAll_of_open]
  · rw [busy]
    simp [spoiled, start, Board.start]
  · rw [uncounted, unreleased]
    simp [released, start, Board.start]
  · rw [uncounted]
    simp [start, Board.start]
  · simp [accepted, start, Board.start, Backlog.pushAll_of_open]

section
variable {plan : Plan} {s t : Pool} {worker : Nat} {p q : Position}

namespace Deed

theorem readied (standing : s.positions[worker]? = some p) (done : Deed plan s worker p q t)
    (h : (s.readied plan).Perm (s.accepted plan ++ s.offered ++ s.dropped)) :
    (t.readied plan).Perm (t.accepted plan ++ t.offered ++ t.dropped) := by
  rw [List.perm_iff_count] at h ⊢
  intro job
  have before := h job
  have moved := done.count_hands standing (f := Position.offered) rfl job
  simp only [Pool.readied, Pool.accepted, Pool.offered, Pool.dropped, List.count_append]
    at before ⊢
  cases done with
  | @reportsLate _ aftermath | @wakes aftermath =>
    cases aftermath <;>
      simp [Aftermath.next, Aftermath.parting] at moved ⊢ <;> omega
  | _ =>
    simp [gather_ite, List.count_cons] at moved ⊢
    omega

theorem accepted (standing : s.positions[worker]? = some p) (done : Deed plan s worker p q t)
    (listed : ∀ job, p = .entering job → job ∈ plan.graph.jobs)
    (h : (s.accepted plan).Perm (s.backlog.waiting ++ s.held ++ s.started ++ s.turnedAway)) :
    (t.accepted plan).Perm (t.backlog.waiting ++ t.held ++ t.started ++ t.turnedAway) := by
  rw [List.perm_iff_count] at h ⊢
  intro job
  have before := h job
  have moved := done.count_hands standing (f := Position.held) rfl job
  simp only [Pool.accepted, Pool.held, Pool.turnedAway, List.count_append] at before ⊢
  cases done with
  | takes waits =>
    simp [waits, List.count_cons] at before moved ⊢
    omega
  | pushes opened =>
    simp [Backlog.push, opened, List.count_cons] at moved ⊢
    omega
  | rejects unlisted => exact absurd (listed _ rfl) unlisted
  | @reportsLate _ aftermath | @wakes aftermath =>
    cases aftermath <;>
      simp [Aftermath.next, Aftermath.parting] at moved ⊢ <;> omega
  | _ =>
    simp [gather_ite, Backlog.close, List.count_cons] at moved ⊢
    omega

theorem outcome_ne_success {job : JobId} {outcome : Outcome} {failure : JobFailure}
    (failed : JobFailure.ofOutcome? job outcome = some failure) : outcome ≠ .success := by
  rintro rfl
  simp [JobFailure.ofOutcome?] at failed

theorem started (standing : s.positions[worker]? = some p) (done : Deed plan s worker p q t)
    (h : s.started.Perm (s.completed ++ s.busy ++ s.spoiled plan)) :
    t.started.Perm (t.completed ++ t.busy ++ t.spoiled plan) := by
  rw [List.perm_iff_count] at h ⊢
  intro job
  have before := h job
  have moved := done.count_hands standing (f := Position.busy) rfl job
  simp only [Pool.busy, Pool.spoiled, List.count_append] at before ⊢
  cases done with
  | fails failed =>
    simp [outcome_ne_success failed, List.count_cons] at moved ⊢
    omega
  | begins callback | panicsAtStart callback | praises callback | panicsAtSuccess callback
  | succeeds callback =>
    simp [callback, List.count_cons] at moved ⊢
    omega
  | @reportsLate _ aftermath | @wakes aftermath =>
    cases aftermath <;>
      simp [Aftermath.next, Aftermath.parting] at moved ⊢ <;> omega
  | _ =>
    simp [gather_ite, List.count_cons] at moved ⊢
    omega

theorem completed (standing : s.positions[worker]? = some p) (done : Deed plan s worker p q t)
    (h : ∃ last, s.completed.Perm (s.uncounted ++ s.unreleased ++ s.released ++ last) ∧
      (last ≠ [] → s.tally.total ≤ s.tally.finished)) :
    ∃ last, t.completed.Perm (t.uncounted ++ t.unreleased ++ t.released ++ last) ∧
      (last ≠ [] → t.tally.total ≤ t.tally.finished) := by
  obtain ⟨last, h, full⟩ := h
  rw [List.perm_iff_count] at h
  have uncounted := fun job => done.count_hands standing (f := Position.uncounted) rfl job
  have unreleased := fun job => done.count_hands standing (f := Position.unreleased) rfl job
  simp only [Pool.uncounted, Pool.unreleased, Pool.released, List.count_append,
    List.perm_iff_count] at h ⊢
  cases done with
  | @overcounts job _ beyond | @countsLast job _ beyond =>
    refine ⟨last ++ [job], fun other => ?_, fun _ => by simp [Tally.mark]; omega⟩
    have before := h other
    have counted := uncounted other
    have released := unreleased other
    simp [List.count_cons] at counted released ⊢
    omega
  | @reportsLate _ aftermath | @wakes aftermath =>
    refine ⟨last, fun other => ?_, by simpa using full⟩
    have before := h other
    have counted := uncounted other
    have released := unreleased other
    cases aftermath <;>
      simp [Aftermath.next, Aftermath.parting] at counted released ⊢ <;> omega
  | _ =>
    refine ⟨last, fun other => ?_, fun some => by have := full some; simp [Tally.mark]; omega⟩
    have before := h other
    have counted := uncounted other
    have released := unreleased other
    simp [gather_ite, List.count_cons] at counted released ⊢
    omega

theorem finished (standing : s.positions[worker]? = some p) (done : Deed plan s worker p q t)
    (h : s.tally.finished + s.uncounted.length = s.completed.length) :
    t.tally.finished + t.uncounted.length = t.completed.length := by
  have moved := done.length_hands standing (f := Position.uncounted) rfl
  simp only [Pool.uncounted] at h ⊢
  cases done with
  | @reportsLate _ aftermath | @wakes aftermath =>
    cases aftermath <;> simp [Aftermath.next] at moved ⊢ <;> omega
  | _ =>
    simp [Tally.mark] at moved ⊢
    omega

theorem total (done : Deed plan s worker p q t) : t.tally.total = s.tally.total := by
  cases done <;> simp [Tally.mark]

theorem enqueued (done : Deed plan s worker p q t)
    (h : s.backlog.accepted = (s.accepted plan).length) :
    t.backlog.accepted = (t.accepted plan).length := by
  simp only [Pool.accepted, List.length_append] at h ⊢
  cases done with
  | pushes opened => simp [Backlog.push, opened]; omega
  | _ => simpa [gather_ite, Backlog.close, Aftermath.parting] using h

theorem ledger (standing : s.positions[worker]? = some p) (done : Deed plan s worker p q t)
    (listed : ∀ job, p = .entering job → job ∈ plan.graph.jobs) (h : Ledger plan s) :
    Ledger plan t where
  readied := done.readied standing h.readied
  accepted := done.accepted standing listed h.accepted
  started := done.started standing h.started
  completed := done.completed standing h.completed
  finished := done.finished standing h.finished
  total := done.total.trans h.total
  enqueued := done.enqueued h.enqueued

end Deed

namespace Ledger

variable (h : Ledger plan s)
include h

theorem accepted_subset : s.accepted plan ⊆ s.readied plan := fun job member =>
  h.readied.mem_iff.mpr (by simp [member])

theorem held_subset : s.held ⊆ s.accepted plan := fun job member =>
  h.accepted.mem_iff.mpr (by simp [member])

theorem started_subset : s.started ⊆ s.accepted plan := fun job member =>
  h.accepted.mem_iff.mpr (by simp [member])

theorem busy_subset : s.busy ⊆ s.started := fun job member =>
  h.started.mem_iff.mpr (by simp [member])

theorem completed_subset : s.completed ⊆ s.started := fun job member =>
  h.started.mem_iff.mpr (by simp [member])

theorem spoiled_subset : s.spoiled plan ⊆ s.started := fun job member =>
  h.started.mem_iff.mpr (by simp [member])

theorem held_readied : s.held ⊆ s.readied plan := fun _ member =>
  h.accepted_subset (h.held_subset member)

theorem started_readied : s.started ⊆ s.readied plan := fun _ member =>
  h.accepted_subset (h.started_subset member)

theorem released_subset : s.released ⊆ s.completed := by
  obtain ⟨last, perm, _⟩ := h.completed
  exact fun job member => perm.mem_iff.mpr (by simp [member])

variable (distinct : (s.readied plan).Nodup)
include distinct

theorem nodup_offers : (s.accepted plan ++ s.offered ++ s.dropped).Nodup :=
  h.readied.nodup_iff.mp distinct

theorem nodup_accepted : (s.accepted plan).Nodup :=
  (List.nodup_append'.mp (List.nodup_append'.mp (h.nodup_offers distinct)).1).1

theorem nodup_taken : (s.backlog.waiting ++ s.held ++ s.started ++ s.turnedAway).Nodup :=
  h.accepted.nodup_iff.mp (h.nodup_accepted distinct)

theorem nodup_started : s.started.Nodup :=
  (List.nodup_append'.mp (List.nodup_append'.mp (h.nodup_taken distinct)).1).2.1

theorem nodup_ended : (s.completed ++ s.busy ++ s.spoiled plan).Nodup :=
  h.started.nodup_iff.mp (h.nodup_started distinct)

theorem nodup_completed : s.completed.Nodup :=
  (List.nodup_append'.mp (List.nodup_append'.mp (h.nodup_ended distinct)).1).1

/-- A job that is about to release its dependents has not released them before. -/
theorem not_released {job : JobId} (standing : s.positions[worker]? = some (.releasing job)) :
    job ∉ s.released := by
  obtain ⟨last, perm, _⟩ := h.completed
  have parts := (List.nodup_append'.mp (perm.nodup_iff.mp (h.nodup_completed distinct))).1
  have member : job ∈ s.unreleased := mem_hands standing (by simp)
  exact (List.nodup_append'.mp parts).2.2 (List.mem_append_right _ member)

end Ledger

namespace Chore

/-- What a chore notes is about no job. -/
theorem gather (chore : Chore plan s t) {f : Event → List JobId}
    (spawned : ∀ n, f (.spawned n) = []) (ready : ∀ n, f (.poolReady n) = [])
    (closed : f .closed = []) (settled : ∀ n b, f (.settled n b) = []) :
    gather f t.history = gather f s.history := by
  cases chore with
  | duty done => cases done <;> simp [gather_ite, spawned, ready, closed, settled]
  | stray woken => cases woken <;> simp

variable (chore : Chore plan s t)
include chore

theorem readied : t.readied plan = s.readied plan :=
  congrArg (_ ++ ·) (chore.gather (fun _ => rfl) (fun _ => rfl) rfl fun _ _ => rfl)

theorem accepted : t.accepted plan = s.accepted plan :=
  congrArg (_ ++ ·) (chore.gather (fun _ => rfl) (fun _ => rfl) rfl fun _ _ => rfl)

theorem dropped : t.dropped = s.dropped :=
  chore.gather (fun _ => rfl) (fun _ => rfl) rfl fun _ _ => rfl

theorem turnedAway : t.turnedAway = s.turnedAway :=
  chore.gather (fun _ => rfl) (fun _ => rfl) rfl fun _ _ => rfl

theorem spoiled : t.spoiled plan = s.spoiled plan :=
  chore.gather (fun _ => rfl) (fun _ => rfl) rfl fun _ _ => rfl

theorem released : t.released = s.released :=
  chore.gather (fun _ => rfl) (fun _ => rfl) rfl fun _ _ => rfl

end Chore

theorem Ledger.chore (crew : Crew plan s) (h : Ledger plan s) (chore : Chore plan s t) :
    Ledger plan t := by
  have offered : t.offered = s.offered := chore.hands crew rfl rfl
  have held : t.held = s.held := chore.hands crew rfl rfl
  have busy : t.busy = s.busy := chore.hands crew rfl rfl
  have uncounted : t.uncounted = s.uncounted := chore.hands crew rfl rfl
  have unreleased : t.unreleased = s.unreleased := chore.hands crew rfl rfl
  have tally := chore.tally
  obtain ⟨started, completed⟩ := chore.lists
  obtain ⟨waiting, number⟩ :
      t.backlog.waiting = s.backlog.waiting ∧ t.backlog.accepted = s.backlog.accepted := by
    rcases chore.board with same | closed
    · simp [same]
    · simp [closed, Backlog.close]
  constructor
  · rw [chore.readied, chore.accepted, offered, chore.dropped]; exact h.readied
  · rw [chore.accepted, waiting, held, started, chore.turnedAway]; exact h.accepted
  · rw [started, completed, busy, chore.spoiled]; exact h.started
  · rw [completed, uncounted, unreleased, chore.released, tally]; exact h.completed
  · rw [tally, uncounted, completed]; exact h.finished
  · rw [tally]; exact h.total
  · rw [number, chore.accepted]; exact h.enqueued

end

end Pool

end Precedence

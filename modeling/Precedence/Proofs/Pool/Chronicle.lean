import Precedence.Pool.Rounds
import Precedence.Proofs.Pool.Readiness
/-!
# What the history of a run says

The board keeps lists of the jobs that were started and that succeeded; the history keeps every
event. `Chronicle` says that they agree: a job is started by the event that says so, its body is
entered unless the observer panicked, and it is recorded as succeeded after its body returned and
the observer was told. With the ledger this orders the history (`jobs_start_once_in_order`): a job
starts once, and everything that precedes it has succeeded and was recorded before.
-/

namespace Precedence

/-- A run of the diamond whose second job ends with the given outcome. -/
def Plan.diamond (workers : Nat) (second : Outcome) : Plan where
  graph := .diamond
  workers
  outcome job := if job = ⟨"2"⟩ then second else .success

namespace Position

/-- A started job whose body has yet to be entered. -/
@[simp] def unannounced : Position → List JobId
  | .announcing job => [job]
  | _ => []

/-- A job whose body has returned and that has yet to be recorded. -/
@[simp] def unrecorded : Position → List JobId
  | .praising job | .recording job => [job]
  | _ => []

end Position

namespace Event

@[simp] def enteredJobs : Event → List JobId
  | .entered _ job => [job]
  | _ => []

/-- A job whose body is entered. -/
@[simp] def begunJobs : Event → List JobId
  | .began _ job => [job]
  | _ => []

@[simp] def recordedJobs : Event → List JobId
  | .recorded _ job => [job]
  | _ => []

/-- A job whose body returned without an error. -/
@[simp] def succeededJobs : Event → List JobId
  | .ended _ job outcome => if outcome = .success then [job] else []
  | _ => []

/-- A started job whose body was not entered because the observer panicked. -/
@[simp] def unbegunJobs (plan : Plan) : Event → List JobId
  | .called _ (.started job) => if plan.observer (.started job) = none then [] else [job]
  | _ => []

/-- A job that succeeded and is not recorded because the observer panicked. -/
@[simp] def lostJobs (plan : Plan) : Event → List JobId
  | .called _ (.succeeded job) => if plan.observer (.succeeded job) = none then [] else [job]
  | _ => []

/-- A job that is started in either sense: it is taken up, or its body is entered. -/
@[simp] def startedJobs : Event → List JobId
  | .entered _ job | .began _ job => [job]
  | _ => []

end Event

/-- `P` relates every event of a history to what happened before it. -/
def Throughout (P : List Event → Event → Prop) (history : List Event) : Prop :=
  ∀ later e earlier, history = later ++ e :: earlier → P earlier e

@[simp] theorem throughout_nil (P : List Event → Event → Prop) : Throughout P [] := by
  simp [Throughout]

@[simp] theorem throughout_cons {P : List Event → Event → Prop} {e : Event}
    {history : List Event} :
    Throughout P (e :: history) ↔ P history e ∧ Throughout P history := by
  constructor
  · exact fun h => ⟨h [] e history rfl,
      fun later e' earlier split => h (e :: later) e' earlier (by simp [split])⟩
  · rintro ⟨first, rest⟩ later e' earlier split
    cases later with
    | nil =>
      obtain ⟨rfl, rfl⟩ := List.cons.inj split
      exact first
    | cons head later => exact rest later e' earlier (List.cons.inj split).2

theorem throughout_append {P : List Event → Event → Prop} {later earlier : List Event}
    (before : Throughout P earlier) (after : ∀ e ∈ later, ∀ history, P history e) :
    Throughout P (later ++ earlier) := by
  induction later with
  | nil => exact before
  | cons e later ih =>
    refine throughout_cons.mpr ⟨after e List.mem_cons_self _, ih fun e' member => ?_⟩
    exact after e' (List.mem_cons_of_mem e member)

namespace Pool

/-- The jobs whose bodies have been entered. -/
def begun (s : Pool) : List JobId := gather Event.begunJobs s.history

structure Chronicle (plan : Plan) (s : Pool) : Prop where
  ended : ∀ worker job outcome, .ended worker job outcome ∈ s.history → outcome = plan.outcome job
  started : s.started = gather Event.enteredJobs s.history
  completed : s.completed = gather Event.recordedJobs s.history
  begun : s.started.Perm (gather Event.begunJobs s.history ++
    hands Position.unannounced s.positions ++ gather (Event.unbegunJobs plan) s.history)
  succeeded : (gather Event.succeededJobs s.history).Perm (s.completed ++
    hands Position.unrecorded s.positions ++ gather (Event.lostJobs plan) s.history)

theorem chronicle_start (plan : Plan) : Chronicle plan (.start plan) := by
  refine ⟨by simp [start], rfl, rfl, ?_, ?_⟩
  · simp [start, Board.start, hands]
  · simp [start, Board.start, hands]

section
variable {plan : Plan} {s t : Pool} {worker : Nat} {p q : Position}

namespace Deed

theorem ended (done : Deed plan s worker p q t)
    (h : ∀ worker job outcome, .ended worker job outcome ∈ s.history → outcome = plan.outcome job) :
    ∀ worker job outcome, .ended worker job outcome ∈ t.history → outcome = plan.outcome job := by
  intro other job outcome member
  cases done with
  | succeeds | fails =>
    simp only [place_history, note_history, List.mem_cons, Event.ended.injEq] at member
    obtain ⟨-, rfl, same⟩ | before := member
    · exact same
    · exact h _ _ _ before
  | @reportsLate _ aftermath | @wakes aftermath =>
    cases aftermath <;> exact h other _ _ (by simpa [Aftermath.parting] using member)
  | closes =>
    simp only [place_history, close_history] at member
    split at member <;> exact h other _ _ (by simpa using member)
  | _ => exact h other _ _ (by simpa using member)

theorem started_eq (done : Deed plan s worker p q t)
    (h : s.started = gather Event.enteredJobs s.history) :
    t.started = gather Event.enteredJobs t.history := by
  cases done <;> simp [h, gather_ite, Aftermath.parting]

theorem completed_eq (done : Deed plan s worker p q t)
    (h : s.completed = gather Event.recordedJobs s.history) :
    t.completed = gather Event.recordedJobs t.history := by
  cases done <;> simp [h, gather_ite, Aftermath.parting]

theorem begun (standing : s.positions[worker]? = some p) (done : Deed plan s worker p q t)
    (h : s.started.Perm (gather Event.begunJobs s.history ++
      hands Position.unannounced s.positions ++ gather (Event.unbegunJobs plan) s.history)) :
    t.started.Perm (gather Event.begunJobs t.history ++
      hands Position.unannounced t.positions ++ gather (Event.unbegunJobs plan) t.history) := by
  rw [List.perm_iff_count] at h ⊢
  intro job
  have before := h job
  have moved := done.count_hands standing (f := Position.unannounced) rfl job
  simp only [List.count_append] at before ⊢
  cases done with
  | begins callback | panicsAtStart callback =>
    simp [callback, List.count_cons] at moved ⊢
    omega
  | @reportsLate _ aftermath | @wakes aftermath =>
    cases aftermath <;>
      simp [Aftermath.next, Aftermath.parting] at moved ⊢ <;> omega
  | _ =>
    simp [gather_ite, List.count_cons] at moved ⊢
    omega

theorem succeeded (standing : s.positions[worker]? = some p) (done : Deed plan s worker p q t)
    (h : (gather Event.succeededJobs s.history).Perm (s.completed ++
      hands Position.unrecorded s.positions ++ gather (Event.lostJobs plan) s.history)) :
    (gather Event.succeededJobs t.history).Perm (t.completed ++
      hands Position.unrecorded t.positions ++ gather (Event.lostJobs plan) t.history) := by
  rw [List.perm_iff_count] at h ⊢
  intro job
  have before := h job
  have moved := done.count_hands standing (f := Position.unrecorded) rfl job
  simp only [List.count_append] at before ⊢
  cases done with
  | fails failed =>
    simp [outcome_ne_success failed] at moved ⊢
    omega
  | praises callback | panicsAtSuccess callback | succeeds callback =>
    simp [callback, List.count_cons] at moved ⊢
    omega
  | @reportsLate _ aftermath | @wakes aftermath =>
    cases aftermath <;>
      simp [Aftermath.next, Aftermath.parting] at moved ⊢ <;> omega
  | _ =>
    simp [gather_ite, List.count_cons] at moved ⊢
    omega

theorem chronicle (standing : s.positions[worker]? = some p) (done : Deed plan s worker p q t)
    (h : Chronicle plan s) : Chronicle plan t where
  ended := done.ended h.ended
  started := done.started_eq h.started
  completed := done.completed_eq h.completed
  begun := done.begun standing h.begun
  succeeded := done.succeeded standing h.succeeded

end Deed

theorem Chore.ended (chore : Chore plan s t) {job : JobId} {outcome : Outcome}
    (member : .ended worker job outcome ∈ t.history) : .ended worker job outcome ∈ s.history := by
  obtain ⟨news, same, idle⟩ := chore.history
  rw [same] at member
  exact (List.mem_append.mp member).resolve_left fun fresh => by simpa using idle _ fresh

theorem Chronicle.chore (crew : Crew plan s) (h : Chronicle plan s) (chore : Chore plan s t) :
    Chronicle plan t := by
  have same : ∀ {f : Event → List JobId}, (∀ n, f (.spawned n) = []) →
      (∀ n, f (.poolReady n) = []) → f .closed = [] → (∀ n b, f (.settled n b) = []) →
      gather f t.history = gather f s.history := chore.gather
  obtain ⟨started, completed⟩ := chore.lists
  constructor
  · exact fun other job outcome member => h.ended other job outcome (chore.ended member)
  · rw [started, same (by simp) (by simp) (by simp) (by simp)]; exact h.started
  · rw [completed, same (by simp) (by simp) (by simp) (by simp)]; exact h.completed
  · rw [started, same (by simp) (by simp) (by simp) (by simp), chore.hands crew rfl rfl,
      same (by simp) (by simp) (by simp) (by simp)]
    exact h.begun
  · rw [completed, same (by simp) (by simp) (by simp) (by simp), chore.hands crew rfl rfl,
      same (by simp) (by simp) (by simp) (by simp)]
    exact h.succeeded

theorem Reachable.chronicle (h : Reachable plan s) : Chronicle plan s :=
  Reachable.invariant (I := Chronicle plan) (chronicle_start plan)
    (fun _ ih standing done => done.chronicle standing ih)
    (fun reached ih chore => ih.chore (crew reached) chore) h

/-- A job starts only when everything that precedes it has succeeded and was recorded. -/
def Founded (plan : Plan) (earlier : List Event) (e : Event) : Prop :=
  ∀ v ∈ e.startedJobs, ∀ u, plan.graph.Precedes u v →
    u ∈ gather Event.succeededJobs earlier ∧ u ∈ gather Event.recordedJobs earlier

theorem Chronicle.founded (chronicle : Chronicle plan s) (ledger : Ledger plan s)
    (ready : Readiness plan s) {v : JobId} (member : v ∈ s.readied plan) {u : JobId}
    (precedes : plan.graph.Precedes u v) :
    u ∈ gather Event.succeededJobs s.history ∧ u ∈ gather Event.recordedJobs s.history := by
  have completed := ready.preceding_completed ledger member precedes
  exact ⟨chronicle.succeeded.mem_iff.mpr (by simp [completed]), chronicle.completed ▸ completed⟩

theorem Deed.founded (standing : s.positions[worker]? = some p) (done : Deed plan s worker p q t)
    (chronicle : Chronicle plan s) (ledger : Ledger plan s) (ready : Readiness plan s)
    (h : Throughout (Founded plan) s.history) : Throughout (Founded plan) t.history := by
  cases done with
  | @enters job =>
    have held : job ∈ s.held := mem_hands standing (by simp)
    have readied := ledger.held_readied held
    refine throughout_cons.mpr ⟨fun v inside u precedes => ?_, h⟩
    obtain rfl := List.mem_singleton.mp inside
    exact chronicle.founded ledger ready readied precedes
  | @begins job =>
    have busy : job ∈ s.busy := mem_hands standing (by simp)
    have readied := ledger.started_readied (ledger.busy_subset busy)
    refine throughout_cons.mpr ⟨fun v inside u precedes => ?_, ?_⟩
    · obtain rfl := List.mem_singleton.mp inside
      simpa using chronicle.founded ledger ready readied precedes
    · simpa [Founded] using h
  | @reportsLate _ aftermath | @wakes aftermath =>
    cases aftermath <;> simpa [Founded, Aftermath.parting] using h
  | closes =>
    simp only [place_history, close_history]
    split <;> simpa [Founded] using h
  | _ => simpa [Founded] using h

theorem Chore.founded (chore : Chore plan s t) (h : Throughout (Founded plan) s.history) :
    Throughout (Founded plan) t.history := by
  obtain ⟨news, same, idle⟩ := chore.history
  rw [same]
  refine throughout_append h fun e fresh earlier v starts => ?_
  have := idle e fresh
  cases e <;> simp_all

theorem Reachable.founded (sound : plan.graph.Sound) (h : Reachable plan s) :
    Throughout (Founded plan) s.history :=
  Reachable.invariant (I := fun s => Throughout (Founded plan) s.history) (throughout_nil _)
    (fun reached ih standing done => done.founded standing reached.chronicle
      (reached.ledger sound) (reached.readiness sound) ih)
    (fun _ ih chore => chore.founded ih) h

/-- Whatever the jobs and the observer do, every job starts at most once and is queued at most once,
and when it starts, or its body is entered, everything that precedes it has returned without an
error and was recorded. -/
theorem jobs_start_once_in_order {jobs : List JobId} {edges : List Edge}
    (built : Graph.build jobs edges = .ok plan.graph) (h : Reachable plan s) :
    (s.started = gather Event.enteredJobs s.history ∧ s.started.Nodup ∧
      (gather Event.begunJobs s.history).Nodup) ∧
    (s.backlog.accepted = (s.accepted plan).length ∧ (s.accepted plan).Nodup) ∧
    s.completed = gather Event.recordedJobs s.history ∧
    ∀ later e earlier, s.history = later ++ e :: earlier →
      ∀ v ∈ e.startedJobs, ∀ u, plan.graph.Precedes u v →
        u ∈ gather Event.succeededJobs earlier ∧ u ∈ gather Event.recordedJobs earlier := by
  have sound := Graph.sound_of_build built
  have ledger := h.ledger sound
  have distinct := (h.readiness sound).distinct
  have started := ledger.nodup_started distinct
  have chronicle := h.chronicle
  have begun := (List.nodup_append'.mp (chronicle.begun.nodup_iff.mp started)).1
  exact ⟨⟨chronicle.started, started, (List.nodup_append'.mp begun).1⟩,
    ⟨ledger.enqueued, ledger.nodup_accepted distinct⟩, chronicle.completed, h.founded sound⟩

/-- The second job of a diamond panics: it and the first one were started, in order. -/
theorem diamond_starts_in_order :
    let s := finalState (.diamond 2 (.panic "boom")) {}
    s.started = [⟨"1"⟩, ⟨"2"⟩] ∧ s.backlog.accepted = 3 ∧ s.started.Nodup ∧
      ∀ later e earlier, s.history = later ++ e :: earlier →
        ∀ v ∈ e.startedJobs, ∀ u, Graph.diamond.Precedes u v →
          u ∈ gather Event.succeededJobs earlier ∧ u ∈ gather Event.recordedJobs earlier := by
  have reached := reachable_finalState (.diamond 2 (.panic "boom")) {}
  obtain ⟨⟨-, once, -⟩, -, -, ordered⟩ := jobs_start_once_in_order Graph.build_diamond reached
  exact ⟨by rfl, by rfl, once, ordered⟩

end

end Pool

end Precedence

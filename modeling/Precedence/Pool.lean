import Precedence.Board
/-!
# The worker pool

An orchestrator and a number of workers, each at a position of its own, over one board. Every
operation below is one atomic action of one thread: a critical section of a lock, a look at the
stop flag, the end of a job body, a callback to the observer, or a notification. A worker that
finds no job is parked until it is notified; a notification that finds nobody parked is lost, and
so is one that wakes a worker whose job another worker takes first.

The jobs end as `Plan.outcome` says, and a callback panics when `Plan.observer` gives a message
for it. What happened is kept in `Pool.history`, the latest event first.
-/

namespace Precedence

inductive Callback where
  | started (job : JobId)
  | succeeded (job : JobId)
  | failed (failure : JobFailure)
deriving DecidableEq, Repr

structure Plan where
  graph : Graph
  workers : Nat
  outcome : JobId → Outcome
  /-- The message with which a callback panics, if it does. -/
  observer : Callback → Option String := fun _ => none

/-- What a worker does after it has reported a failure. -/
inductive Aftermath where
  | notify (failure : JobFailure)
  | leave
  /-- Its loop was ended by a panic. -/
  | unwind
deriving DecidableEq, Repr

inductive Position where
  | unborn
  /-- About to look into the queue. -/
  | taking
  | parked
  /-- Holds a job, and is about to look at the stop flag. -/
  | checking (job : JobId)
  /-- About to note that the job was taken up. -/
  | entering (job : JobId)
  /-- About to tell the observer that the job starts. -/
  | announcing (job : JobId)
  | running (job : JobId)
  /-- About to tell the observer that the job succeeded. -/
  | praising (job : JobId)
  /-- About to note that the job succeeded. -/
  | recording (job : JobId)
  /-- About to count the job as finished. -/
  | counting (job : JobId)
  /-- About to count down the dependents of the job. -/
  | releasing (job : JobId)
  /-- Has released jobs left, and is about to look at the stop flag for the next one. -/
  | offering (ready : List JobId)
  | pushing (job : JobId) (ready : List JobId)
  /-- Has pushed a job, and is about to wake one parked worker. -/
  | notifying (ready : List JobId)
  | reporting (cause : StopCause) (aftermath : Aftermath)
  /-- Has stopped the run, and is about to close the queue. -/
  | closing (aftermath : Aftermath)
  /-- About to wake every parked worker. -/
  | broadcasting (aftermath : Aftermath)
  /-- About to wake the orchestrator. -/
  | waking (aftermath : Aftermath)
  /-- About to tell the observer of the failure. -/
  | lamenting (failure : JobFailure)
  | gone (exit : Exit)
deriving DecidableEq, Repr

structure SuccessReport where
  completed : List JobId
  workers : Nat
  outstanding : Nat
  enqueued : Nat
deriving DecidableEq, Repr

structure FailureReport where
  failure : JobFailure
  completed : List JobId
  /-- Jobs that were never taken up, in the order of the job list. -/
  neverRan : List JobId
  /-- Jobs that wait for the failed one, in ascending order. -/
  blocked : List JobId
  workers : Nat
deriving DecidableEq, Repr

inductive Verdict where
  | succeeded (report : SuccessReport)
  | failed (report : FailureReport)
deriving DecidableEq, Repr

inductive Stage where
  | spawning (count : Nat)
  /-- About to look whether the run is settled. -/
  | watching
  /-- Holds the lock of the tally, and falls asleep next: it has seen that the run is not settled,
  although the run may have been stopped since. -/
  | dozing
  /-- Asleep until the tally wakes it. -/
  | asleep
  | closing
  | broadcasting
  | joining
  | returned (result : Except Error Verdict)

inductive Event where
  | spawned (worker : Nat)
  | poolReady (count : Nat)
  /-- The queue accepted a job while that many waited. -/
  | enqueued (job : JobId) (backlog : Nat)
  | refused (job : JobId)
  /-- A worker left the job it had taken because the run was stopped. -/
  | turnedAway (worker : Nat) (job : JobId)
  | entered (worker : Nat) (job : JobId)
  | called (worker : Nat) (callback : Callback)
  | began (worker : Nat) (job : JobId)
  | ended (worker : Nat) (job : JobId) (outcome : Outcome)
  | recorded (worker : Nat) (job : JobId)
  | counted (worker : Nat) (finished : Nat)
  /-- The counts reached by the dependents of a job, and the jobs that became ready. -/
  | released (worker : Nat) (job : JobId) (steps : List (JobId × Nat)) (ready : List JobId)
  /-- A released job was not enqueued because the run was stopped. -/
  | withheld (worker : Nat) (job : JobId)
  | reported (worker : Nat) (cause : StopCause) (first : Bool)
  | closed
  | unwound (worker : Nat) (message : String)
  | left (worker : Nat) (exit : Exit)
  | settled (finished : Nat) (stopped : Bool)
deriving DecidableEq, Repr

structure Pool extends Board where
  positions : List Position
  stage : Stage
  history : List Event := []

namespace Pool

def start (plan : Plan) : Pool where
  toBoard := .start plan.graph
  positions := List.replicate plan.workers .unborn
  stage := .spawning 0

def note (s : Pool) (event : Event) : Pool := { s with history := event :: s.history }

def place (s : Pool) (worker : Nat) (position : Position) : Pool :=
  { s with positions := s.positions.set worker position }

def leave (s : Pool) (worker : Nat) (exit : Exit) : Pool :=
  (s.note (.left worker exit)).place worker (.gone exit)

/-- Every parked worker will look into the queue again. -/
def wakeAll (s : Pool) : Pool :=
  { s with positions := s.positions.map fun p => if p = .parked then .taking else p }

/-- The orchestrator looks again, if it was asleep. -/
def wakeOrchestrator (s : Pool) : Pool :=
  match s.stage with
  | .asleep => { s with stage := .watching }
  | _ => s

/-- A callback panicked: the panic is caught at the end of the thread and reported, so the thread
itself ends well. Of a panic only the message is kept; no code runs when the rest is dropped. -/
def unwind (s : Pool) (worker : Nat) (message : String) : Pool :=
  (s.note (.unwound worker message)).place worker
    (.reporting (.internal (.workerPanicked message)) .unwind)

def conclude (s : Pool) (worker : Nat) : Aftermath → Pool
  | .notify failure => s.place worker (.lamenting failure)
  | .leave => s.leave worker .failed
  | .unwind => s.place worker (.gone .failed)

/-- Tells the observer something, and goes on to the next position unless the callback panics. -/
def call (s : Pool) (plan : Plan) (worker : Nat) (callback : Callback)
    (next : Pool → Pool) : Pool :=
  let s := s.note (.called worker callback)
  match plan.observer callback with
  | some message => s.unwind worker message
  | none => next s

def take (s : Pool) (worker : Nat) : Pool :=
  match s.backlog.take with
  | .job job rest => { s with backlog := rest }.place worker (.checking job)
  | .ended => s.leave worker .drained
  | .blocked => s.place worker .parked

def check (s : Pool) (worker : Nat) (job : JobId) : Pool :=
  if s.latch.stopped then (s.note (.turnedAway worker job)).leave worker .stopped
  else s.place worker (.entering job)

def enter (s : Pool) (plan : Plan) (worker : Nat) (job : JobId) : Pool :=
  if job ∈ plan.graph.jobs then
    ({ s with started := s.started ++ [job] }.note (.entered worker job)).place worker
      (.announcing job)
  else s.place worker (.reporting (.internal (Breach.unlisted job).toError) .leave)

def announce (s : Pool) (plan : Plan) (worker : Nat) (job : JobId) : Pool :=
  s.call plan worker (.started job) fun s =>
    (s.note (.began worker job)).place worker (.running job)

def finishBody (s : Pool) (plan : Plan) (worker : Nat) (job : JobId) : Pool :=
  (s.note (.ended worker job (plan.outcome job))).place worker
    (match JobFailure.ofOutcome? job (plan.outcome job) with
      | none => .praising job
      | some failure => .reporting (.job failure) (.notify failure.detached))

def praise (s : Pool) (plan : Plan) (worker : Nat) (job : JobId) : Pool :=
  s.call plan worker (.succeeded job) fun s => s.place worker (.recording job)

def record (s : Pool) (worker : Nat) (job : JobId) : Pool :=
  ({ s with completed := s.completed ++ [job] }.note (.recorded worker job)).place worker
    (.counting job)

/-- The count is noted, and the orchestrator is woken when it reaches the total. -/
def count (s : Pool) (worker : Nat) (job : JobId) : Pool :=
  let s := { s with tally := s.tally.mark }.note (.counted worker s.tally.mark.finished)
  if s.tally.total < s.tally.finished then
    s.place worker
      (.reporting (.internal (Breach.overcount s.tally.finished s.tally.total).toError) .leave)
  else if s.tally.finished = s.tally.total then s.wakeOrchestrator.leave worker .completedLast
  else s.place worker (.releasing job)

def release (s : Pool) (worker : Nat) (job : JobId) : Pool :=
  let report := s.countdown.report job
  let counted := { s with countdown := s.countdown.finish job }
  match report.released with
  | .ok ready =>
    (counted.note (.released worker job report.steps ready)).place worker (.offering ready)
  | .error error =>
    (counted.note (.released worker job report.steps [])).place worker
      (.reporting (.internal (Breach.miscount error).toError) .leave)

def offer (s : Pool) (worker : Nat) : List JobId → Pool
  | [] => s.place worker .taking
  | job :: ready =>
    if s.latch.stopped then (s.note (.withheld worker job)).place worker (.offering ready)
    else s.place worker (.pushing job ready)

def push (s : Pool) (worker : Nat) (job : JobId) (ready : List JobId) : Pool :=
  if s.backlog.closed then (s.note (.refused job)).place worker (.offering ready)
  else
    ({ s with backlog := s.backlog.push job }.note
      (.enqueued job s.backlog.waiting.length)).place worker (.notifying ready)

def notifyOne (s : Pool) (worker : Nat) (sleeper : Option Nat) (ready : List JobId) : Pool :=
  (match sleeper with
    | some other => s.place other .taking
    | none => s).place worker (.offering ready)

def report (s : Pool) (worker : Nat) (cause : StopCause) (aftermath : Aftermath) : Pool :=
  let noted := s.note (.reported worker cause s.latch.admits)
  if s.latch.stopped then noted.conclude worker aftermath
  else { noted with latch := s.latch.report cause }.place worker (.closing aftermath)

/-- Closes the queue, and notes whether it was open. -/
def close (s : Pool) : Pool :=
  if s.backlog.closed then s else { s with backlog := s.backlog.close }.note .closed

def tallyHeld (s : Pool) : Bool :=
  match s.stage with
  | .dozing => true
  | _ => false

/-- The next action of a worker that is able to act on its own. -/
def act (s : Pool) (plan : Plan) (worker : Nat) : Position → Option Pool
  | .unborn | .parked | .gone _ | .notifying _ => none
  | .taking => some (s.take worker)
  | .checking job => some (s.check worker job)
  | .entering job => some (s.enter plan worker job)
  | .announcing job => some (s.announce plan worker job)
  | .running job => some (s.finishBody plan worker job)
  | .praising job => some (s.praise plan worker job)
  | .recording job => some (s.record worker job)
  | .counting job => if s.tallyHeld then none else some (s.count worker job)
  | .releasing job => some (s.release worker job)
  | .offering ready => some (s.offer worker ready)
  | .pushing job ready => some (s.push worker job ready)
  | .reporting cause aftermath => some (s.report worker cause aftermath)
  | .closing aftermath => some (s.close.place worker (.broadcasting aftermath))
  | .broadcasting aftermath => some (s.wakeAll.place worker (.waking aftermath))
  | .waking aftermath =>
    if s.tallyHeld then none else some (s.wakeOrchestrator.conclude worker aftermath)
  | .lamenting failure =>
    some (s.call plan worker (.failed failure) fun s => s.leave worker .failed)

/-- What the run amounts to once every worker has left. A thread catches its panics (`unwind`), so
joining it does not fail, and there is no case for an error from that. -/
def result (s : Pool) (plan : Plan) : Except Error Verdict :=
  match s.latch.held with
  | none =>
    if s.tally.complete then
      .ok (.succeeded ⟨s.completed, plan.workers, s.countdown.outstanding, s.backlog.accepted⟩)
    else .error (Breach.unfinished s.tally.finished s.tally.total).toError
  | some (.job failure) =>
    .ok (.failed ⟨failure, s.completed, plan.graph.jobs.filter (· ∉ s.started),
      plan.graph.downstream failure.job, plan.workers⟩)
  | some (.internal error) => .error error

def isGone : Position → Bool
  | .gone _ => true
  | _ => false

def orchestrate (s : Pool) (plan : Plan) : Option Pool :=
  match s.stage with
  | .spawning n =>
    if n < plan.workers then
      some { (s.note (.spawned n)).place n .taking with stage := .spawning (n + 1) }
    else some { s.note (.poolReady n) with stage := .watching }
  | .watching =>
    if s.tally.settled s.latch.stopped then
      some { s.note (.settled s.tally.finished s.latch.stopped) with stage := .closing }
    else some { s with stage := .dozing }
  | .dozing => some { s with stage := .asleep }
  | .closing => some { s.close with stage := .broadcasting }
  | .broadcasting => some { s.wakeAll with stage := .joining }
  | .joining =>
    if s.positions.all isGone then some { s with stage := .returned (s.result plan) } else none
  | .asleep | .returned _ => none

end Pool

end Precedence

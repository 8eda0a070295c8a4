import Precedence.Board
/-!
# One worker on its own

The loop of a worker that has the board to itself: take a job, run it, release its dependents, go
on until the queue ends, the run is stopped, or a job fails. Bodies may act on the board while they
run. `Bench.turn` is one round of the loop; every round that comes back to its head has counted a
finished job below the total, so the loop ends.
-/

namespace Precedence

/-- What a body may do to the board before it ends. -/
inductive Act where
  | push (job : JobId)
  | close
  | report (cause : StopCause)
  | mark
deriving DecidableEq, Repr

structure Body where
  acts : List Act := []
  outcome : Outcome := .success
deriving DecidableEq, Repr

/-- What can be seen of a loop from outside, in order. -/
inductive Sighting where
  | started (job : JobId) (worker : Nat)
  | succeeded (job : JobId)
  | failed (failure : JobFailure)
  | pushed (accepted : Bool)
  | closed (first : Bool)
  | reported (first : Bool)
  | marked (finished : Nat)
deriving DecidableEq, Repr

/-- A board used by one worker at a time. -/
structure Bench extends Board where
  sightings : List Sighting := []
deriving DecidableEq, Repr

namespace Bench

def see (b : Bench) (sighting : Sighting) : Bench :=
  { b with sightings := b.sightings ++ [sighting] }

def perform (b : Bench) : Act → Bench
  | .push job => { b with backlog := b.backlog.push job }.see (.pushed b.backlog.accepts)
  | .close => { b with backlog := b.backlog.close }.see (.closed !b.backlog.closed)
  | .report cause => { b with latch := b.latch.report cause }.see (.reported b.latch.admits)
  | .mark => { b with tally := b.tally.mark }.see (.marked b.tally.mark.finished)

/-- Reports a failure. The first one closes the queue. -/
def fail (b : Bench) (cause : StopCause) : Bench :=
  if b.latch.stopped then b
  else { b with latch := b.latch.report cause, backlog := b.backlog.close }

def execute (b : Bench) (worker : Nat) (job : JobId) (acts : List Act) : Bench :=
  acts.foldl perform ({ b with started := b.started ++ [job] }.see (.started job worker))

/-- Enqueues released jobs, unless the run was stopped. -/
def offer (b : Bench) (ready : List JobId) : Bench :=
  if b.latch.stopped then b else { b with backlog := b.backlog.pushAll ready }

inductive Turn where
  | blocked
  | leave (exit : Exit) (after : Bench)
  | again (after : Bench)

def complete (b : Bench) (job : JobId) : Turn :=
  let b := { b with completed := b.completed ++ [job], tally := b.tally.mark }
  if b.tally.total < b.tally.finished then
    .leave .failed (b.fail (.internal (Breach.overcount b.tally.finished b.tally.total).toError))
  else if b.tally.finished = b.tally.total then .leave .completedLast b
  else
    let counted := { b with countdown := b.countdown.finish job }
    match b.countdown.released job with
    | .error error => .leave .failed (counted.fail (.internal (Breach.miscount error).toError))
    | .ok ready => .again (counted.offer ready)

def turn (table : JobId → Option Body) (worker : Nat) (b : Bench) : Turn :=
  match b.backlog.take with
  | .blocked => .blocked
  | .ended => .leave .drained b
  | .job job rest =>
    let b := { b with backlog := rest }
    if b.latch.stopped then .leave .stopped b
    else
      match table job with
      | none => .leave .failed (b.fail (.internal (Breach.unlisted job).toError))
      | some body =>
        let b := b.execute worker job body.acts
        match JobFailure.ofOutcome? job body.outcome with
        | some failure => .leave .failed ((b.fail (.job failure)).see (.failed failure.detached))
        | none => (b.see (.succeeded job)).complete job

/-- How many jobs may still be counted as finished. -/
def room (b : Bench) : Nat := b.tally.total - b.tally.finished

theorem perform_total (b : Bench) (act : Act) : (b.perform act).tally.total = b.tally.total := by
  cases act <;> rfl

theorem perform_finished (b : Bench) (act : Act) :
    b.tally.finished ≤ (b.perform act).tally.finished := by
  cases act <;> simp [perform, see, Tally.mark]

theorem foldl_perform_tally (acts : List Act) (b : Bench) :
    (acts.foldl perform b).tally.total = b.tally.total ∧
      b.tally.finished ≤ (acts.foldl perform b).tally.finished := by
  induction acts generalizing b with
  | nil => exact ⟨rfl, Nat.le_refl _⟩
  | cons act rest ih =>
    obtain ⟨total, finished⟩ := ih (b.perform act)
    exact ⟨total.trans (b.perform_total act), Nat.le_trans (b.perform_finished act) finished⟩

theorem complete_again {b next : Bench} {job : JobId} (h : b.complete job = .again next) :
    b.tally.finished < b.tally.total ∧ next.tally = b.tally.mark := by
  simp only [complete] at h
  split at h
  · simp at h
  · split at h
    · simp at h
    · rename_i overcounted last
      split at h
      · simp at h
      · injection h with h
        subst h
        simp only [Tally.mark] at overcounted last ⊢
        refine ⟨by omega, ?_⟩
        simp only [offer]
        split <;> rfl

theorem room_of_again {table : JobId → Option Body} {worker : Nat} {b next : Bench}
    (h : b.turn table worker = .again next) : next.room < b.room := by
  simp only [turn] at h
  split at h
  · simp at h
  · simp at h
  · split at h
    · simp at h
    · split at h
      · simp at h
      · split at h
        · simp at h
        · rename_i job rest _ _ _ body _ _ _
          obtain ⟨below, tally⟩ := complete_again h
          obtain ⟨total, finished⟩ := foldl_perform_tally body.acts
            ({ b with backlog := rest, started := b.started ++ [job] }.see (.started job worker))
          simp only [see, execute] at below tally total finished
          simp only [room, tally, Tally.mark]
          omega

/-- Runs the loop of `worker` to its end. There is no answer if it would wait for ever. -/
def loop (table : JobId → Option Body) (worker : Nat) (b : Bench) : Option (Exit × Bench) :=
  match _h : b.turn table worker with
  | .blocked => none
  | .leave exit after => some (exit, after)
  | .again next => loop table worker next
termination_by b.room
decreasing_by exact room_of_again _h

/-- Runs loops one after the other. A loop that would wait for ever is left out. -/
def loops (table : JobId → Option Body) : List Nat → Bench → List (Option Exit) × Bench
  | [], b => ([], b)
  | worker :: rest, b =>
    match b.loop table worker with
    | none => let (exits, after) := loops table rest b; (none :: exits, after)
    | some (exit, next) =>
      let (exits, after) := loops table rest next; (some exit :: exits, after)

end Bench

end Precedence

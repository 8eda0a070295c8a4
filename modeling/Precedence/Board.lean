import Precedence.Countdown
import Precedence.Backlog
import Precedence.Tally
import Precedence.Failure
/-!
# What the workers of a run share

The ready queue, the dependency counters, the completion tally, the stop latch, and the jobs that
were started and that succeeded, in order. A `Breach` is a state of these that a run over a
precedence graph never reaches.
-/

namespace Precedence

/-- A broken rule of the scheduler itself. -/
inductive Breach where
  | noRoots
  | unlisted (job : JobId)
  | overcount (finished total : Nat)
  | unfinished (finished total : Nat)
  | miscount (error : CountdownError)
deriving DecidableEq, Repr

def Breach.message : Breach → String
  | noRoots => "no job is initially ready"
  | unlisted job => s!"job '{job.name}' was enqueued but is not in the job table"
  | overcount finished total => s!"{finished} jobs finished but only {total} exist"
  | unfinished finished total =>
    s!"run ended with {finished} of {total} jobs finished and no failure"
  | miscount error => error.message

def Breach.toError (breach : Breach) : Error := .invariant breach.message

/-- Why a worker leaves its loop. -/
inductive Exit where
  /-- The queue is closed and empty. -/
  | drained
  /-- The run was stopped when the worker took up its next job. -/
  | stopped
  /-- The worker finished the last outstanding job. -/
  | completedLast
  | failed
deriving DecidableEq, Repr

def Exit.name : Exit → String
  | drained => "Drained"
  | stopped => "Stopped"
  | completedLast => "CompletedLast"
  | failed => "Failed"

structure Board where
  backlog : Backlog
  countdown : Countdown
  tally : Tally
  latch : StopLatch := {}
  /-- Jobs that were taken up, in order. -/
  started : List JobId := []
  completed : List JobId := []
deriving DecidableEq, Repr

/-- Before a run: the roots wait in the queue, and nothing is finished. -/
def Board.start (graph : Graph) : Board where
  backlog := ({} : Backlog).pushAll graph.roots
  countdown := .start graph
  tally := ⟨graph.jobs.length, 0⟩

end Precedence

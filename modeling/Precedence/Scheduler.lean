import Precedence.Pool.Rounds
/-!
# The scheduler

A scheduler is made from jobs and edges, and runs once. A run without jobs succeeds at once; any
other run starts a pool of at least `minWorkers` workers.
-/

namespace Precedence

def minWorkers : Nat := 2

/-- The size of the pool: as requested, else as many as the machine has room for. -/
def poolSize (available : Nat) (requested : Option Nat) : Nat :=
  max (requested.getD available) minWorkers

structure Scheduler where
  graph : Graph
  workers : Nat
  state : Lifecycle := .idle
deriving DecidableEq, Repr

/-- A finished run: what it returned, and what happened in it, the latest event first. -/
structure Run where
  result : Except Error Verdict
  history : List Event := []

def Verdict.toExcept : Verdict → Except Fault SuccessReport
  | .succeeded report => .ok report
  | .failed report =>
    .error (report.failure.error.context s!"job '{report.failure.job.name}' failed")

def Verdict.isSuccess : Verdict → Bool
  | .succeeded _ => true
  | .failed _ => false

def Verdict.completed : Verdict → List JobId
  | .succeeded report => report.completed
  | .failed report => report.completed

def Verdict.workers : Verdict → Nat
  | .succeeded report => report.workers
  | .failed report => report.workers

namespace Scheduler

def make (jobs : List JobId) (edges : List Edge) (workers : Nat) : Except GraphError Scheduler :=
  (Graph.build jobs edges).map fun graph => { graph, workers }

/-- What a scheduler without jobs reports. -/
def nothingToRun : Verdict := .succeeded ⟨[], 0, 0, 0⟩

def settledState : Except Error Verdict → Lifecycle
  | .ok (.succeeded _) => .succeeded
  | _ => .failed

def execute (plan : Plan) (pace : Pool.Pace) : Run :=
  if plan.graph.jobs = [] then { result := .ok nothingToRun }
  else if plan.graph.roots = [] then { result := .error Breach.noRoots.toError }
  else
    let final := Pool.finalState plan pace
    match final.stage with
    | .returned result => { result, history := final.history }
    | _ =>
      { result := .error (Breach.unfinished final.tally.finished final.tally.total).toError
        history := final.history }

/-- Runs the jobs, unless the scheduler has run before. -/
def run (s : Scheduler) (outcome : JobId → Outcome) (observer : Callback → Option String)
    (pace : Pool.Pace) : Run × Scheduler :=
  match s.state with
  | .idle =>
    let run := execute ⟨s.graph, s.workers, outcome, observer⟩ pace
    (run, { s with state := settledState run.result })
  | state => ({ result := .error (.notIdle state) }, s)

end Scheduler

end Precedence

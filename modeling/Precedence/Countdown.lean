import Precedence.Graph
/-!
# Dependency counters

For every job of a graph, how many of its dependencies have yet to succeed. Reporting a job as
finished counts each of its dependents down and releases those that reach zero, in the order of the
dependents. A counter that stands at zero is never counted down: the report fails there, and the
dependents before it keep their new counts.
-/

namespace Precedence

inductive CountdownError where
  | noCounter (dependent job : JobId)
  | belowZero (dependent job : JobId)
deriving DecidableEq, Repr

def CountdownError.message : CountdownError → String
  | noCounter dependent job =>
    s!"dependent '{dependent.name}' of '{job.name}' has no dependency counter"
  | belowZero dependent job =>
    s!"dependency count of '{dependent.name}' would drop below zero when '{job.name}' finished"

def CountdownError.toError (error : CountdownError) : Error := .invariant error.message

structure Countdown where
  graph : Graph
  counts : List (JobId × Nat)
deriving DecidableEq, Repr

namespace Countdown

/-- Every counter starts at the number of dependencies. -/
def start (graph : Graph) : Countdown :=
  ⟨graph, graph.jobs.map fun job => (job, graph.indegree job)⟩

def pending (c : Countdown) (job : JobId) : Option Nat := c.counts.lookup job

/-- All outstanding dependencies together. -/
def outstanding (c : Countdown) : Nat := (c.counts.map (·.2)).foldr (· + ·) 0

def setCount (counts : List (JobId × Nat)) (job : JobId) (n : Nat) : List (JobId × Nat) :=
  counts.map fun entry => if entry.1 = job then (job, n) else entry

/-- What one report did to the counters: the counts it reached, in order, and the jobs it released
unless it failed. -/
structure Report where
  counts : List (JobId × Nat)
  steps : List (JobId × Nat)
  released : Except CountdownError (List JobId)

/-- Counts the dependents of `job` down, one after the other. -/
def countDown (job : JobId) (counts : List (JobId × Nat)) : List JobId → Report
  | [] => ⟨counts, [], .ok []⟩
  | dependent :: rest =>
    match counts.lookup dependent with
    | none => ⟨counts, [], .error (.noCounter dependent job)⟩
    | some 0 => ⟨counts, [], .error (.belowZero dependent job)⟩
    | some (n + 1) =>
      let report := countDown job (setCount counts dependent n) rest
      ⟨report.counts, (dependent, n) :: report.steps,
        report.released.map fun ready => if n = 0 then dependent :: ready else ready⟩

def report (c : Countdown) (job : JobId) : Report :=
  countDown job c.counts (c.graph.dependents job)

def finish (c : Countdown) (job : JobId) : Countdown := { c with counts := (c.report job).counts }

/-- The jobs that become ready with this report. -/
def released (c : Countdown) (job : JobId) : Except CountdownError (List JobId) :=
  (c.report job).released

end Countdown

end Precedence

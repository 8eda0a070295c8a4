import Precedence.Inspect
import Precedence.Log.Record
import Precedence.Pool
import Precedence.Process

namespace Precedence

namespace LogRecord

def graphArea : String := "rundag::dag::graph"
def countdownArea : String := "rundag::dag::state_manager"
def queueArea : String := "rundag::engine::queue"
def tallyArea : String := "rundag::engine::completion"
def latchArea : String := "rundag::engine::latch"
def schedulerArea : String := "rundag::engine::runtime"
def commandArea : String := "rundag::exec::command"
def jobArea : String := "rundag::exec::job_runner"
def poolArea : String := "rundag::exec::worker_pool"

/-- The records of a graph that is built: one for each repetition of an edge, and one when it has
been accepted. -/
def ofBuild (jobs : List JobId) (edges : List Edge) (accepted : Bool) : List LogRecord :=
  (repeats [] edges).map (fun edge => ⟨.warn, graphArea, "duplicate edge; ignoring",
    [("from", edge.source.name), ("to", edge.target.name)]⟩) ++
  if accepted then
    [⟨.debug, graphArea, "job graph validated",
      [("jobs", toString jobs.length), ("edges", toString (distinct edges).length)]⟩]
  else []

def ofCommand (job : JobId) (command : String) (result : ProcessResult) : List LogRecord :=
  ⟨.info, commandArea, "starting job process", [("job", job.name), ("cmd", command)]⟩ ::
    match result with
    | .unspawned _ => []
    | .ended status _ errors =>
      (ProcessResult.errorLines errors).map (fun line =>
        ⟨.debug, commandArea, "stderr: " ++ line, [("job", job.name)]⟩) ++
      [⟨.info, commandArea, "job process exited",
        [("job", job.name), ("exit_code", toString status.code),
          ("success", toString status.success)]⟩]

/-- The record of a job whose body has ended. Times are not measured here. -/
def ofOutcome (worker : Nat) (job : JobId) : Outcome → LogRecord
  | .success => ⟨.info, jobArea, "job finished",
      [("job", job.name), ("worker", toString worker), ("elapsed_ms", "0")]⟩
  | .failure error => ⟨.warn, jobArea, "job returned an error",
      [("job", job.name), ("worker", toString worker), ("error", error.full)]⟩
  | .panic message => ⟨.warn, jobArea, "job panicked",
      [("job", job.name), ("worker", toString worker), ("panic", message)]⟩

def ofReport (cause : StopCause) (first : Bool) : LogRecord :=
  if first then
    match cause with
    | .job failure => ⟨.warn, latchArea, "job failed; stopping scheduler",
        [("job", failure.job.name), ("error", failure.error.top)]⟩
    | .internal error => ⟨.warn, latchArea, "internal scheduler failure; stopping scheduler",
        [("error", error.message)]⟩
  else ⟨.debug, latchArea, "latch already set; dropping later failure",
    [("failure", cause.inspect)]⟩

def ofEnqueued (job : JobId) (backlog : Nat) : LogRecord :=
  ⟨.trace, queueArea, "job enqueued", [("job", job.name), ("backlog", toString backlog)]⟩

/-- The records of an event in a run of `total` jobs on `workers` workers, without those of a
command. -/
def ofEvent (total workers : Nat) : Event → List LogRecord
  | .spawned worker => [⟨.debug, poolArea, "worker started", [("worker", toString worker)]⟩]
  | .poolReady count => [⟨.trace, poolArea, "worker pool started",
      [("spawned", toString count), ("requested", toString workers)]⟩]
  | .enqueued job backlog => [ofEnqueued job backlog]
  | .refused job =>
    [⟨.debug, queueArea, "ready queue finished; dropping push", [("job", job.name)]⟩]
  | .turnedAway worker job => [⟨.debug, poolArea, "stop flag set; not starting job",
      [("worker", toString worker), ("job", job.name)]⟩]
  | .began worker job => [⟨.debug, jobArea, "starting job",
      [("job", job.name), ("worker", toString worker)]⟩]
  | .ended worker job outcome => [ofOutcome worker job outcome]
  | .counted _ finished =>
    if finished = total then
      [⟨.debug, tallyArea, "all jobs finished", [("total", toString total)]⟩]
    else []
  | .released _ job steps ready =>
    steps.map (fun (dependent, remaining) =>
      ⟨.trace, countdownArea, "decremented dependency count",
        [("job", job.name), ("dependent", dependent.name), ("remaining", toString remaining)]⟩) ++
    if ready.isEmpty then []
    else [⟨.debug, countdownArea, "dependents became ready",
      [("job", job.name), ("ready", JobId.inspectList ready)]⟩]
  | .withheld _ job =>
    [⟨.debug, poolArea, "stop flag set; not enqueueing dependent", [("job", job.name)]⟩]
  | .reported _ cause first => [ofReport cause first]
  | .closed => [⟨.debug, queueArea, "ready queue marked finished", []⟩]
  | .unwound worker message => [⟨.error, poolArea, "worker panicked outside job execution",
      [("worker", toString worker), ("panic", message)]⟩]
  | .left worker exit => [⟨.debug, poolArea, "worker exiting",
      [("worker", toString worker), ("exit", exit.name)]⟩]
  | .settled finished stopped =>
    [⟨.debug, schedulerArea, "orchestrator woke; shutting down workers",
      [("finished", toString finished), ("total", toString total),
        ("stopped", toString stopped)]⟩]
  | .entered .. | .called .. | .recorded .. => []

/-- The records before the workers are spawned: the roots are put into the queue. -/
def ofStart (graph : Graph) (workers : Nat) : List LogRecord :=
  ⟨.info, schedulerArea, "starting scheduler run",
    [("total", toString graph.jobs.length), ("workers", toString workers),
      ("roots", JobId.inspectList graph.roots)]⟩ ::
  graph.roots.zipIdx.map fun (job, backlog) => ofEnqueued job backlog

end LogRecord

end Precedence

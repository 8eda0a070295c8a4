import Precedence.Failure
import Precedence.Text.Quoted

namespace Precedence

def JobId.inspect (job : JobId) : String := s!"JobId({Text.quote job.name})"

def JobId.inspectList (jobs : List JobId) : String :=
  "[" ++ ", ".intercalate (jobs.map inspect) ++ "]"

def inspectJob (job : JobId) : String := s!"Job \x7b id: {job.inspect}, .. \x7d"

/-- The options of a scheduler whose observer is not shown. -/
def inspectOptions (workers : Option Nat) : String :=
  let shown := match workers with
    | none => "None"
    | some n => s!"Some({n})"
  s!"SchedulerOptions \x7b workers: {shown}, .. \x7d"

/-- The cause with what it is about; causes from outside are shown by their message. -/
def Error.inspect : Error → String
  | duplicateJob job => s!"DuplicateJob({job.inspect})"
  | unknownJob edge missing =>
    s!"UnknownJob \x7b from: {edge.source.inspect}, to: {edge.target.inspect}, " ++
      s!"missing: {missing.inspect} \x7d"
  | selfDependency job => s!"SelfDependency({job.inspect})"
  | cycle reason => s!"DagCycle({Text.quote reason})"
  | invariant reason => s!"InvariantViolation({Text.quote reason})"
  | notIdle state => s!"NotIdle({state.text.capitalize})"
  | workerPanicked text => s!"WorkerPanicked({Text.quote text})"
  | configuration reason => s!"ConfigError({Text.quote reason})"
  | error => error.message

def JobFailure.inspect (failure : JobFailure) : String :=
  s!"JobFailure \x7b job: {failure.job.inspect}, error: {failure.error.report}, " ++
    s!"panicked: {failure.panicked} \x7d"

def StopCause.inspect : StopCause → String
  | job failure => s!"Job({failure.inspect})"
  | internal error => s!"Internal({error.inspect})"

end Precedence

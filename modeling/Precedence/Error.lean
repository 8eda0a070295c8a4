import Precedence.Job
import Precedence.Fault

namespace Precedence

/-- The life of a scheduler: it runs at most once. -/
inductive Lifecycle where
  | idle
  | running
  | succeeded
  | failed
deriving DecidableEq, Repr

def Lifecycle.text : Lifecycle → String
  | .idle => "idle"
  | .running => "running"
  | .succeeded => "succeeded"
  | .failed => "failed"

inductive TomlError where
  | malformed
  /-- It is a document, but a value in it does not fit. -/
  | unfit (reason : String)
deriving DecidableEq, Repr

inductive Error where
  | duplicateJob (job : JobId)
  | unknownJob (edge : Edge) (missing : JobId)
  | selfDependency (job : JobId)
  | cycle (reason : String)
  | invariant (reason : String)
  | notIdle (state : Lifecycle)
  | workerSpawn (cause : String)
  | workerPanicked (message : String)
  | configuration (reason : String)
  | io (cause : String)
  | toml (error : TomlError)
  | other (fault : Fault)
deriving DecidableEq, Repr

namespace Error

def message : Error → String
  | duplicateJob job => s!"Duplicate job id: {job.name}"
  | unknownJob edge missing =>
    s!"Edge {edge.source.name} -> {edge.target.name} references unknown job '{missing.name}'"
  | selfDependency job => s!"Job '{job.name}' cannot depend on itself"
  | cycle reason => s!"Cycle detected in DAG: {reason}"
  | invariant reason => s!"Internal invariant violated: {reason}"
  | notIdle state => s!"Scheduler cannot run from state '{state.text}'"
  | workerSpawn cause => s!"Failed to spawn worker thread: {cause}"
  | workerPanicked text => s!"Worker thread panicked: {text}"
  | configuration reason => s!"Configuration error: {reason}"
  | io cause => s!"IO error: {cause}"
  | toml .malformed => "TOML parsing error"
  | toml (.unfit reason) => s!"TOML parsing error: {reason}"
  | other fault => fault.top

/-- The message together with the system error that caused it, if one did. -/
def fault : Error → Fault
  | workerSpawn cause => ⟨(workerSpawn cause).message, [cause]⟩
  | io cause => ⟨(io cause).message, [cause]⟩
  | other fault => fault
  | error => .ofMessage error.message

def isConstruction : Error → Bool
  | duplicateJob _ | unknownJob _ _ | selfDependency _ | cycle _ => true
  | _ => false

end Error

end Precedence

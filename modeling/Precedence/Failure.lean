import Precedence.Error

namespace Precedence

/-- How the body of a job ends. -/
inductive Outcome where
  | success
  | failure (error : Fault)
  | panic (message : String)
deriving DecidableEq, Repr

/-- The message of a panic that carried something other than a text. -/
def unknownPanic : String := "unknown panic payload"

structure JobFailure where
  job : JobId
  error : Fault
  panicked : Bool
deriving DecidableEq, Repr

namespace JobFailure

def ofPanic (job : JobId) (message : String) : JobFailure :=
  ⟨job, .ofMessage s!"job panicked: {message}", true⟩

def ofOutcome? (job : JobId) : Outcome → Option JobFailure
  | .success => none
  | .failure error => some ⟨job, error, false⟩
  | .panic message => some (ofPanic job message)

theorem ofOutcome?_eq_none {job : JobId} {outcome : Outcome} :
    ofOutcome? job outcome = none ↔ outcome = .success := by
  cases outcome <;> simp [ofOutcome?]

/-- A copy whose error is flattened to its one-line text. -/
def detached (failure : JobFailure) : JobFailure := { failure with error := failure.error.flatten }

def display (failure : JobFailure) : String :=
  s!"job '{failure.job.name}' failed: {failure.error.full}"

end JobFailure

/-- What stops a run: a job that failed, or the scheduler itself. -/
inductive StopCause where
  | job (failure : JobFailure)
  | internal (error : Error)
deriving DecidableEq, Repr

structure StopLatch where
  stopped : Bool := false
  held : Option StopCause := none
deriving DecidableEq, Repr

namespace StopLatch

def admits (latch : StopLatch) : Bool := !latch.stopped

def report (latch : StopLatch) (cause : StopCause) : StopLatch :=
  if latch.stopped then latch else ⟨true, some cause⟩

/-- Takes the held cause out; the latch stays set. -/
def take (latch : StopLatch) : StopLatch := { latch with held := none }

end StopLatch

end Precedence

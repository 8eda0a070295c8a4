import Precedence.Pool

namespace Precedence

inductive Progress where
  | started (job : JobId) (worker : Nat)
  | succeeded (job : JobId) (microseconds : Nat)
  | failed (failure : JobFailure)
deriving DecidableEq, Repr

/-- How many jobs there are, and how many lines of finished ones were printed. -/
structure Console where
  total : Nat
  finished : Nat := 0
deriving DecidableEq, Repr

namespace Console

def print (c : Console) : Progress → String × Console
  | .started job worker => (s!"      start {job.name} (worker {worker})\n", c)
  | .succeeded job microseconds =>
    let n := c.finished + 1
    (s!"[{n}/{c.total}] ok    {job.name} ({microseconds / 1000} ms)\n", { c with finished := n })
  | .failed failure =>
    let n := c.finished + 1
    (s!"[{n}/{c.total}] FAIL  {failure.job.name}: {failure.error.full}\n",
      { c with finished := n })

def printAll (c : Console) : List Progress → List String
  | [] => []
  | p :: rest => let (line, next) := c.print p; line :: next.printAll rest

end Console

/-- What a callback means for the progress of a run. Times are not measured here. -/
def Callback.progress (worker : Nat) : Callback → Progress
  | started job => .started job worker
  | succeeded job => .succeeded job 0
  | failed failure => .failed failure

end Precedence

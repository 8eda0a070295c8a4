namespace Precedence

/-- How many jobs there are, and how many were counted as finished. -/
structure Tally where
  total : Nat
  finished : Nat := 0
deriving DecidableEq, Repr

namespace Tally

def mark (t : Tally) : Tally := { t with finished := t.finished + 1 }

def complete (t : Tally) : Bool := t.total ≤ t.finished

def settled (t : Tally) (stopped : Bool) : Bool := t.complete || stopped

/-- What a waiter is told that waits while one other thread marks `marks` jobs and then, if `stop`,
stops the run. It is told nothing definite if it could wake before the last mark, or never. -/
def await (t : Tally) (marks : Nat) (stop : Bool) : Option Tally :=
  let reached := t.finished + marks
  if t.complete || reached > t.total || (reached < t.total && !stop) then none
  else some { t with finished := reached }

end Tally

end Precedence

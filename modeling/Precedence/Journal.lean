import Precedence.Job
/-!
# Execution journals

A journal numbers what it is told about the bodies of jobs: that one started, finished or failed.
Each entry gets the next number.
-/

namespace Precedence

inductive Mark where
  | started
  | finished
  | failed
deriving DecidableEq, Repr

structure Entry where
  number : Nat
  mark : Mark
  job : JobId
deriving DecidableEq, Repr

structure Journal where
  next : Nat := 0
  entries : List Entry := []
deriving DecidableEq, Repr

namespace Journal

def record (j : Journal) (mark : Mark) (job : JobId) : Journal :=
  ⟨j.next + 1, j.entries ++ [⟨j.next, mark, job⟩]⟩

def startCount (j : Journal) (job : JobId) : Nat :=
  j.entries.countP fun e => e.mark = .started ∧ e.job = job

def startCounts (j : Journal) : List (JobId × Nat) :=
  (JobId.sort (distinct ((j.entries.filter (·.mark = .started)).map (·.job)))).map
    fun job => (job, j.startCount job)

def ran (j : Journal) (job : JobId) : Bool := 0 < j.startCount job

def firstNumber (j : Journal) (mark : Mark) (job : JobId) : Option Nat :=
  (j.entries.find? fun e => e.mark = mark ∧ e.job = job).map (·.number)

/-- The jobs that started with a number above `number`, in order. -/
def startedAfter (j : Journal) (number : Nat) : List JobId :=
  (j.entries.filter fun e => e.mark = .started ∧ number < e.number).map (·.job)

/-- Whether `before` finished for the first time before `after` started for the first time. -/
def finishedBeforeStart (j : Journal) (before after : JobId) : Bool :=
  match j.firstNumber .finished before, j.firstNumber .started after with
  | some finish, some start => finish < start
  | _, _ => false

end Journal

end Precedence

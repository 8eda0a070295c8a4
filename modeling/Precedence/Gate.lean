import Precedence.Crowd
import Precedence.Tally
/-!
# A tally that several threads use

A gate is a tally behind a lock, with a stop flag beside it. Threads mark jobs as finished, and
threads wait at the gate until the tally is settled. Whoever marks the last job wakes all threads
that are asleep, and keeps the lock meanwhile. The stop flag may be raised by a thread that does not
hold the lock, so a thread that waits may have found the flag down and be about to fall asleep when
it is raised. To wake those that wait, the lock is taken once more.

A thread that falls asleep gives the lock back, and takes it again before it looks once more.
-/

namespace Precedence

structure Gate where
  tally : Tally
  stopped : Bool := false
  locked : Bool := false
  /-- The threads that are asleep, and to which no wakeup has come. -/
  asleep : List Nat := []
deriving DecidableEq, Repr

namespace Gate

inductive Call where
  /-- Counts one more job as finished, and is told how many there are. -/
  | mark
  | raise
  | wake
  /-- Waits until the tally is settled, and is told how many jobs are finished. -/
  | wait
deriving DecidableEq, Repr

inductive Stand where
  | free
  /-- Holds the lock, and is about to count. -/
  | counting
  /-- Holds the lock, has counted the last job, and is about to wake all that wait. -/
  | announcing
  /-- Holds the lock to wake all that wait. -/
  | ringing
  /-- Holds the lock, and is about to look whether the tally is settled. -/
  | looking
  /-- Holds the lock, and falls asleep next. -/
  | dozing
  /-- Asleep, or awake again and about to take the lock. -/
  | parked
  | leaving
deriving DecidableEq, Repr

inductive Entry where
  | marked (finished : Nat)
  | raised
  | woke
  | passed (finished : Nat)
deriving DecidableEq, Repr

def Stand.holds : Stand → Bool
  | .free | .parked => false
  | _ => true

/-- What a call does once it holds the lock. The flag is raised without it. -/
def Call.entrance : Call → Option Stand
  | .mark => some .counting
  | .raise => none
  | .wake => some .ringing
  | .wait => some .looking

inductive Act (place : Nat) (s : Gate) :
    Thread Stand Call → Option Entry → Gate → Thread Stand Call → Prop where
  | raises {rest : List Call} :
      Act place s ⟨.free, .raise :: rest⟩ (some .raised) { s with stopped := true } ⟨.free, rest⟩
  | enters {call : Call} {stand : Stand} {rest : List Call} (opens : call.entrance = some stand)
      (free : s.locked = false) :
      Act place s ⟨.free, call :: rest⟩ none { s with locked := true } ⟨stand, rest⟩
  | counts {rest : List Call} :
      Act place s ⟨.counting, rest⟩ (some (.marked s.tally.mark.finished))
        { s with tally := s.tally.mark }
        ⟨if s.tally.mark.finished = s.tally.total then .announcing else .leaving, rest⟩
  | announces {rest : List Call} :
      Act place s ⟨.announcing, rest⟩ none { s with asleep := [] } ⟨.leaving, rest⟩
  | rings {rest : List Call} :
      Act place s ⟨.ringing, rest⟩ (some .woke) { s with asleep := [] } ⟨.leaving, rest⟩
  | passes {rest : List Call} (settled : s.tally.settled s.stopped = true) :
      Act place s ⟨.looking, rest⟩ (some (.passed s.tally.finished)) s ⟨.leaving, rest⟩
  | lingers {rest : List Call} (unsettled : s.tally.settled s.stopped = false) :
      Act place s ⟨.looking, rest⟩ none s ⟨.dozing, rest⟩
  | sleeps {rest : List Call} :
      Act place s ⟨.dozing, rest⟩ none { s with locked := false, asleep := place :: s.asleep }
        ⟨.parked, rest⟩
  | rises {rest : List Call} (awake : place ∉ s.asleep) (free : s.locked = false) :
      Act place s ⟨.parked, rest⟩ none { s with locked := true } ⟨.looking, rest⟩
  | leaves {rest : List Call} :
      Act place s ⟨.leaving, rest⟩ none { s with locked := false } ⟨.free, rest⟩

/-- A thread that is asleep wakes although nobody woke it. -/
inductive Stray (s : Gate) : Gate → Prop where
  | wakes {place : Nat} (asleep : place ∈ s.asleep) :
      Stray s { s with asleep := s.asleep.erase place }

def protocol : Protocol Gate Stand Call Entry where
  Act := Act
  Stray := Stray

abbrev Users := Crowd Gate Stand Call Entry

def start (tally : Tally) (scripts : List (List Call)) : Users := .start { tally } .free scripts

def releaser (marks : Nat) (stop : Bool) : List Call :=
  List.replicate marks .mark ++ if stop then [.raise, .wake] else []

/-- One thread that marks and may stop the run, and `n` threads that wait for it. -/
def releasing (tally : Tally) (n marks : Nat) (stop : Bool) : Users :=
  start tally (releaser marks stop :: List.replicate n [.wait])

end Gate

end Precedence

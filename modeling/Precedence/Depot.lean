import Precedence.Backlog
import Precedence.Crowd
/-!
# A queue that several threads use

A depot is a backlog behind a lock. What a call does while it holds the lock is one action.
Notifications are sent after the lock has been released, so they are actions of their own: one that
finds nobody asleep is lost. Whoever finds nothing to take falls asleep until it is woken, and then
it looks again, although another thread may have taken the job meanwhile.
-/

namespace Precedence

structure Depot where
  backlog : Backlog
  /-- The threads that are asleep, and to which no wakeup has come. -/
  asleep : List Nat := []
deriving DecidableEq, Repr

namespace Depot

inductive Call where
  | push (job : JobId)
  | pop
  | close
deriving DecidableEq, Repr

inductive Stand where
  | free
  /-- In a pop: asleep, or awake again and about to look once more. -/
  | parked
  /-- Has pushed a job, and is about to wake one thread that is asleep. -/
  | notifying
  /-- Has closed the queue, and is about to wake all that are asleep. -/
  | broadcasting
deriving DecidableEq, Repr

/-- What a call did while it held the lock, with what it returns. -/
inductive Entry where
  | pushed (job : JobId) (accepted : Bool)
  | popped (found : Option JobId)
  | closed (first : Bool)
deriving DecidableEq, Repr

/-- The jobs whose pushes were accepted. -/
def accepted (entries : List Entry) : List JobId :=
  entries.filterMap fun
    | .pushed job true => some job
    | _ => none

def results (entries : List Entry) : List (Option JobId) :=
  entries.filterMap fun
    | .popped found => some found
    | _ => none

def taken (entries : List Entry) : List JobId := (results entries).filterMap id

/-- A thread that is about to look for a job, with the calls that it makes later. -/
inductive Looks (place : Nat) (s : Depot) : Thread Stand Call → List Call → Prop where
  | first {rest : List Call} : Looks place s ⟨.free, .pop :: rest⟩ rest
  | again {rest : List Call} (awake : place ∉ s.asleep) : Looks place s ⟨.parked, rest⟩ rest

inductive Act (place : Nat) (s : Depot) :
    Thread Stand Call → Option Entry → Depot → Thread Stand Call → Prop where
  | pushes {job : JobId} {rest : List Call} (opened : s.backlog.closed = false) :
      Act place s ⟨.free, .push job :: rest⟩ (some (.pushed job true))
        { s with backlog := s.backlog.push job } ⟨.notifying, rest⟩
  | isRefused {job : JobId} {rest : List Call} (closed : s.backlog.closed = true) :
      Act place s ⟨.free, .push job :: rest⟩ (some (.pushed job false))
        { s with backlog := s.backlog.push job } ⟨.free, rest⟩
  | takes {c : Thread Stand Call} {rest : List Call} {job : JobId} {left : Backlog}
      (looks : Looks place s c rest) (found : s.backlog.take = .job job left) :
      Act place s c (some (.popped (some job))) { s with backlog := left } ⟨.free, rest⟩
  | ends {c : Thread Stand Call} {rest : List Call} (looks : Looks place s c rest)
      (found : s.backlog.take = .ended) : Act place s c (some (.popped none)) s ⟨.free, rest⟩
  | parks {c : Thread Stand Call} {rest : List Call} (looks : Looks place s c rest)
      (found : s.backlog.take = .blocked) :
      Act place s c none { s with asleep := place :: s.asleep } ⟨.parked, rest⟩
  | closes {rest : List Call} :
      Act place s ⟨.free, .close :: rest⟩ (some (.closed s.backlog.accepts))
        { s with backlog := s.backlog.close } ⟨.broadcasting, rest⟩
  | notifies {rest : List Call} {other : Nat} (asleep : other ∈ s.asleep) :
      Act place s ⟨.notifying, rest⟩ none { s with asleep := s.asleep.erase other } ⟨.free, rest⟩
  | notifiesNobody {rest : List Call} (nobody : s.asleep = []) :
      Act place s ⟨.notifying, rest⟩ none s ⟨.free, rest⟩
  | broadcasts {rest : List Call} :
      Act place s ⟨.broadcasting, rest⟩ none { s with asleep := [] } ⟨.free, rest⟩

/-- A thread that is asleep wakes although nobody woke it. -/
inductive Stray (s : Depot) : Depot → Prop where
  | wakes {place : Nat} (asleep : place ∈ s.asleep) :
      Stray s { s with asleep := s.asleep.erase place }

def protocol : Protocol Depot Stand Call Entry where
  Act := Act
  Stray := Stray

abbrev Clients := Crowd Depot Stand Call Entry

def start (backlog : Backlog) (scripts : List (List Call)) : Clients :=
  .start { backlog } .free scripts

/-- The calls of a thread that pushes jobs and then may close the queue. -/
def producer (jobs : List JobId) (closing : Bool) : List Call :=
  jobs.map .push ++ if closing then [.close] else []

/-- One thread that pushes jobs and then may close the queue, and `n` threads that pop once each. -/
def serving (backlog : Backlog) (n : Nat) (jobs : List JobId) (closing : Bool) : Clients :=
  start backlog (producer jobs closing :: List.replicate n [.pop])

end Depot

end Precedence

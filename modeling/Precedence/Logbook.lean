import Precedence.Crowd
import Precedence.JobSet
/-!
# A journal that several threads use

The bodies of scripted jobs keep one journal, on as many threads as run them. A number is taken from
a counter beside the list of entries. The list is behind a lock, which a thread holds from before it
takes a number until it has written the entry. A body that waits for another one looks into the
list from time to time whether that one has started, and goes on after so many looks.
-/

namespace Precedence

structure Logbook where
  journal : Journal := {}
  locked : Bool := false
deriving DecidableEq, Repr

namespace Logbook

inductive Call where
  | record (mark : Mark) (job : JobId)
  /-- Waits until a job has started, but not for ever. -/
  | await (other : JobId)
  | pause (milliseconds : Nat)
  /-- The body is over. -/
  | finish (outcome : Outcome)
deriving DecidableEq, Repr

inductive Stand where
  | free
  /-- Holds the lock, and is about to take a number. -/
  | numbering (mark : Mark) (job : JobId)
  /-- Holds the lock, and is about to write the entry. -/
  | writing (entry : Entry)
  | leaving
  /-- Holds the lock, and is about to look for a start. So many looks are left after this one. -/
  | searching (other : JobId) (looks : Nat)
  /-- Holds the lock, and gives it back next, because it has not found a start. -/
  | turning (other : JobId) (looks : Nat)
  /-- Rests before the next look, if any is left. -/
  | resting (other : JobId) (looks : Nat)
deriving DecidableEq, Repr

inductive Note where
  | recorded (entry : Entry)
  | awaited (other : JobId) (found : Bool)
  | paused (milliseconds : Nat)
  | ended (outcome : Outcome)
deriving DecidableEq, Repr

/-- How often a body looks for the start of another one, every ten milliseconds. -/
def maxLooks : Nat := 500

def Stand.holds : Stand → Bool
  | .free | .resting _ _ => false
  | _ => true

/-- What a call does once it holds the lock. A pause and an end take no lock. -/
def Call.entrance : Call → Option Stand
  | .record mark job => some (.numbering mark job)
  | .await other => some (.searching other (maxLooks - 1))
  | .pause _ | .finish _ => none

inductive Act (s : Logbook) :
    Thread Stand Call → Option Note → Logbook → Thread Stand Call → Prop where
  | enters {call : Call} {stand : Stand} {rest : List Call} (opens : call.entrance = some stand)
      (free : s.locked = false) :
      Act s ⟨.free, call :: rest⟩ none { s with locked := true } ⟨stand, rest⟩
  | numbers {mark : Mark} {job : JobId} {rest : List Call} :
      Act s ⟨.numbering mark job, rest⟩ none
        { s with journal := { s.journal with next := s.journal.next + 1 } }
        ⟨.writing ⟨s.journal.next, mark, job⟩, rest⟩
  | writes {entry : Entry} {rest : List Call} :
      Act s ⟨.writing entry, rest⟩ (some (.recorded entry))
        { s with journal := { s.journal with entries := s.journal.entries ++ [entry] } }
        ⟨.leaving, rest⟩
  | finds {other : JobId} {looks : Nat} {rest : List Call} (ran : s.journal.ran other = true) :
      Act s ⟨.searching other looks, rest⟩ (some (.awaited other true)) s ⟨.leaving, rest⟩
  | misses {other : JobId} {looks : Nat} {rest : List Call} (idle : s.journal.ran other = false) :
      Act s ⟨.searching other looks, rest⟩ none s ⟨.turning other looks, rest⟩
  | turns {other : JobId} {looks : Nat} {rest : List Call} :
      Act s ⟨.turning other looks, rest⟩ none { s with locked := false }
        ⟨.resting other looks, rest⟩
  | returns {other : JobId} {looks : Nat} {rest : List Call} (free : s.locked = false) :
      Act s ⟨.resting other (looks + 1), rest⟩ none { s with locked := true }
        ⟨.searching other looks, rest⟩
  | givesUp {other : JobId} {rest : List Call} :
      Act s ⟨.resting other 0, rest⟩ (some (.awaited other false)) s ⟨.free, rest⟩
  | pauses {milliseconds : Nat} {rest : List Call} :
      Act s ⟨.free, .pause milliseconds :: rest⟩ (some (.paused milliseconds)) s ⟨.free, rest⟩
  | ends {outcome : Outcome} {rest : List Call} :
      Act s ⟨.free, .finish outcome :: rest⟩ (some (.ended outcome)) s ⟨.free, rest⟩
  | leaves {rest : List Call} :
      Act s ⟨.leaving, rest⟩ none { s with locked := false } ⟨.free, rest⟩

def protocol : Protocol Logbook Stand Call Note where
  Act _ := Act

abbrev Writers := Crowd Logbook Stand Call Note

end Logbook

def ScriptedJob.body (job : ScriptedJob) : List Logbook.Call :=
  .record .started job.id :: ((job.waitsFor.map .await).toList ++
    ((job.delay.map .pause).toList ++ [.record job.closingMark job.id, .finish job.outcome]))

/-- Threads that are about to run the bodies of these jobs, each thread one after the other. -/
def Logbook.start (scripts : List (List ScriptedJob)) : Writers :=
  .start {} .free (scripts.map fun script => script.flatMap ScriptedJob.body)

end Precedence

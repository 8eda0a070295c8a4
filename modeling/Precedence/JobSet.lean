import Precedence.Journal
import Precedence.Scheduler
/-!
# Scripted job sets

A job set is put together step by step. A job keeps the place at which it was first named and ends
as the last step that named it says. Its body notes in a journal that it started, may wait for
another job to start and then for a while, and notes how it ends.
-/

namespace Precedence

structure JobSet where
  order : List JobId := []
  outcomes : List (JobId × Outcome) := []
  delays : List (JobId × Nat) := []
  /-- For whose start a body waits. -/
  waits : List (JobId × JobId) := []
  edges : List Edge := []

structure ScriptedJob where
  id : JobId
  outcome : Outcome
  delay : Option Nat
  waitsFor : Option JobId
deriving DecidableEq, Repr

namespace JobSet

def withJob (s : JobSet) (job : JobId) (outcome : Outcome) : JobSet :=
  { s with
    order := if job ∈ s.order then s.order else s.order ++ [job]
    outcomes := (job, outcome) :: s.outcomes }

def job (s : JobSet) (id : JobId) : JobSet := s.withJob id .success

def jobs (s : JobSet) (ids : List JobId) : JobSet := ids.foldl job s

def failing (s : JobSet) (id : JobId) (message : String) : JobSet :=
  s.withJob id (.failure (.ofMessage message))

def panicking (s : JobSet) (id : JobId) (message : String) : JobSet := s.withJob id (.panic message)

def delay (s : JobSet) (id : JobId) (milliseconds : Nat) : JobSet :=
  { s with delays := (id, milliseconds) :: s.delays }

def waitForStartOf (s : JobSet) (id other : JobId) : JobSet :=
  { s with waits := (id, other) :: s.waits }

def edge (s : JobSet) (source target : JobId) : JobSet :=
  { s with edges := s.edges ++ [⟨source, target⟩] }

def addEdges (s : JobSet) (edges : List Edge) : JobSet :=
  edges.foldl (fun s e => s.edge e.source e.target) s

inductive BuildStep where
  | job (id : JobId)
  | jobs (ids : List JobId)
  | failing (id : JobId) (message : String)
  | panicking (id : JobId) (message : String)
  | delay (id : JobId) (milliseconds : Nat)
  | waitForStartOf (id other : JobId)
  | edge (source target : JobId)
  | addEdges (edges : List Edge)
deriving DecidableEq, Repr

def apply (s : JobSet) : BuildStep → JobSet
  | .job id => s.job id
  | .jobs ids => s.jobs ids
  | .failing id message => s.failing id message
  | .panicking id message => s.panicking id message
  | .delay id milliseconds => s.delay id milliseconds
  | .waitForStartOf id other => s.waitForStartOf id other
  | .edge source target => s.edge source target
  | .addEdges edges => s.addEdges edges

def assemble (steps : List BuildStep) : JobSet := steps.foldl apply {}

def scripted (s : JobSet) (id : JobId) : ScriptedJob :=
  ⟨id, (s.outcomes.lookup id).getD .success, s.delays.lookup id, s.waits.lookup id⟩

/-- The jobs in the order in which they were first named, and the edges as given. -/
def build (s : JobSet) : List ScriptedJob × List Edge := (s.order.map s.scripted, s.edges)

def names : List Nat → List JobId := List.map fun n => ⟨toString n⟩

/-- Two jobs that wait for a first one, and a last one that waits for both. -/
def diamond : JobSet :=
  (({} : JobSet).jobs (names [1, 2, 3, 4])).addEdges
    [⟨⟨"1"⟩, ⟨"2"⟩⟩, ⟨⟨"1"⟩, ⟨"3"⟩⟩, ⟨⟨"2"⟩, ⟨"4"⟩⟩, ⟨⟨"3"⟩, ⟨"4"⟩⟩]

end JobSet

namespace ScriptedJob

def closingMark (job : ScriptedJob) : Mark :=
  match job.outcome with
  | .success => .finished
  | _ => .failed

/-- The journal after the body has run with no other body at the same time. -/
def runAlone (job : ScriptedJob) (j : Journal) : Journal :=
  (j.record .started job.id).record job.closingMark job.id

/-- The longest that a body waits for another one to start, in milliseconds. -/
def waitLimit : Nat := 5000

end ScriptedJob

/-- The journal that the bodies of a run kept, given its history with the latest event first. -/
def Journal.ofHistory (j : Journal) (history : List Event) : Journal :=
  history.foldr (fun event j =>
    match event with
    | .began _ job => j.record .started job
    | .ended _ job .success => j.record .finished job
    | .ended _ job _ => j.record .failed job
    | _ => j) j

/-- A body waits for the start of another one, which an earlier journal may show already, and takes
its time. -/
def JobSet.pace (s : JobSet) (earlier : Journal) : Pool.Pace where
  free history job :=
    ((s.delays.lookup job).getD 0 = 0) &&
      match s.waits.lookup job with
      | none => true
      | some other => (earlier.ofHistory history).ran other
  patience job :=
    (s.delays.lookup job).getD 0 + if (s.waits.lookup job).isSome then ScriptedJob.waitLimit else 0

end Precedence

import Precedence.Graph
/-!
# Neighbour lists, filled edge by edge

The same jobs and edges that make a `Graph`, kept as two lists of neighbours for every job. They are
read one after the other: first the jobs, then the edges. The edges that were seen, their number and
both lists are kept side by side, and reading stops at the first job or edge that is wrong. Cycles
are not looked for.
-/

namespace Precedence

/-- The neighbours of a job, in the order in which their edges were first given. -/
structure Neighbours where
  dependencies : List JobId := []
  dependents : List JobId := []
deriving DecidableEq, Repr

structure Adjacency where
  nodes : List (JobId × Neighbours) := []
  seen : List Edge := []
  edgeCount : Nat := 0
deriving DecidableEq, Repr

namespace Adjacency

variable (a : Adjacency) (job : JobId)

def neighbours : Option Neighbours := a.nodes.lookup job

/-- Nothing is known of a job that is not listed, so it has no neighbours. -/
def dependencies : List JobId := (a.neighbours job).elim [] (·.dependencies)

def dependents : List JobId := (a.neighbours job).elim [] (·.dependents)

def enter : Except GraphError Adjacency :=
  if (a.neighbours job).isSome then .error (.duplicateJob job)
  else .ok { a with nodes := a.nodes ++ [(job, {})] }

def update (nodes : List (JobId × Neighbours)) (job : JobId) (change : Neighbours → Neighbours) :
    List (JobId × Neighbours) :=
  nodes.map fun entry => if entry.1 = job then (entry.1, change entry.2) else entry

/-- Adds an edge to the lists at both of its ends, unless it was seen before. -/
def link (edge : Edge) : Except GraphError Adjacency :=
  if (a.neighbours edge.source).isNone then .error (.unknownJob edge edge.source)
  else if (a.neighbours edge.target).isNone then .error (.unknownJob edge edge.target)
  else if edge.source = edge.target then .error (.selfDependency edge.source)
  else if edge ∈ a.seen then .ok a
  else
    let waiting := update a.nodes edge.target fun known =>
      { known with dependencies := known.dependencies ++ [edge.source] }
    .ok
      { nodes := update waiting edge.source fun known =>
          { known with dependents := known.dependents ++ [edge.target] }
        seen := a.seen ++ [edge]
        edgeCount := a.edgeCount + 1 }

def read (jobs : List JobId) (edges : List Edge) : Except GraphError Adjacency := do
  let listed ← jobs.foldlM enter {}
  edges.foldlM link listed

end Adjacency

end Precedence

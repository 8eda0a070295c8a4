import Precedence.Error
import Precedence.Search
/-!
# Precedence graphs

`Graph.build` accepts a list of jobs and a list of edges between them, or names the first thing
that is wrong: a repeated job, an ill-formed edge, or a job on a cycle. Later occurrences of an
edge are ignored. The neighbours of a job are read off the edge list, so they come in the order in
which the edges were first given.
-/

namespace Precedence

inductive GraphError where
  | duplicateJob (job : JobId)
  | unknownJob (edge : Edge) (missing : JobId)
  | selfDependency (job : JobId)
  | cycle (through : JobId)
deriving DecidableEq, Repr

def GraphError.toError : GraphError → Error
  | duplicateJob job => .duplicateJob job
  | unknownJob edge missing => .unknownJob edge missing
  | selfDependency job => .selfDependency job
  | cycle through => .cycle s!"cycle detected in job DAG involving job '{through.name}'"

/-- Jobs with distinct edges between them, and an order in which every edge points forward. -/
structure Graph where
  jobs : List JobId
  edges : List Edge
  order : List JobId
deriving DecidableEq, Repr

def dependenciesIn (edges : List Edge) (job : JobId) : List JobId :=
  (edges.filter (·.target = job)).map (·.source)

def dependentsIn (edges : List Edge) (job : JobId) : List JobId :=
  (edges.filter (·.source = job)).map (·.target)

/-- The jobs that wait for `job` and were not seen yet. -/
def unseen (edges : List Edge) (seen : List JobId) (job : JobId) : List JobId :=
  distinct ((dependentsIn edges job).filter (· ∉ seen))

theorem mem_unseen {edges : List Edge} {seen : List JobId} {job v : JobId} :
    v ∈ unseen edges seen job ↔ v ∈ dependentsIn edges job ∧ v ∉ seen := by
  simp [unseen]

/-- Once what was unseen is seen, fewer edges lead to an unseen job. -/
theorem length_filter_unseen_lt {edges : List Edge} {seen : List JobId} {job v : JobId}
    (new : v ∈ unseen edges seen job) :
    (edges.filter (·.target ∉ seen ++ unseen edges seen job)).length <
      (edges.filter (·.target ∉ seen)).length := by
  obtain ⟨waits, absent⟩ := mem_unseen.mp new
  obtain ⟨edge, inside, rfl⟩ := List.mem_map.mp waits
  have both : edges.filter (·.target ∉ seen ++ unseen edges seen job) =
      (edges.filter (·.target ∉ seen)).filter (·.target ∉ unseen edges seen job) := by
    rw [List.filter_filter]
    refine List.filter_congr fun edge _ => ?_
    simp [Bool.and_comm]
  rw [both]
  refine List.length_filter_lt_length_iff_exists.mpr ⟨edge, ?_, by simpa using new⟩
  exact List.mem_filter.mpr ⟨(List.mem_filter.mp inside).1, decide_eq_true absent⟩

/-- Follows the edges from the jobs of a stack. What an edge leads to goes on the stack when it is
seen for the first time. -/
def spread (edges : List Edge) (seen : List JobId) : List JobId → List JobId
  | [] => seen
  | job :: stack =>
    spread edges (seen ++ unseen edges seen job) ((unseen edges seen job).reverse ++ stack)
termination_by stack => ((edges.filter (·.target ∉ seen)).length, stack.length)
decreasing_by
  by_cases none : unseen edges seen job = []
  · simp only [none, List.append_nil, List.reverse_nil, List.nil_append]
    exact Prod.Lex.right _ (by simp)
  · obtain ⟨v, new⟩ := List.exists_mem_of_ne_nil _ none
    exact Prod.Lex.left _ _ (length_filter_unseen_lt new)

/-- The jobs at the far end of a path of one or more edges. -/
def reachableFrom (root : JobId) (edges : List Edge) : List JobId := spread edges [] [root]

/-- Once a job with dependents is seen, fewer edges start from an unseen one. -/
theorem length_filter_source_lt {edges : List Edge} {seen : List JobId} {job v : JobId}
    (new : job ∉ seen) (waits : v ∈ dependentsIn edges job) :
    (edges.filter (·.source ∉ job :: seen)).length < (edges.filter (·.source ∉ seen)).length := by
  obtain ⟨edge, inside, -⟩ := List.mem_map.mp waits
  obtain ⟨given, starts⟩ := List.mem_filter.mp inside
  obtain rfl : edge.source = job := of_decide_eq_true starts
  have both : edges.filter (·.source ∉ edge.source :: seen) =
      (edges.filter (·.source ∉ seen)).filter (·.source ≠ edge.source) := by
    rw [List.filter_filter]
    refine List.filter_congr fun edge _ => ?_
    simp
  rw [both]
  exact List.length_filter_lt_length_iff_exists.mpr
    ⟨edge, List.mem_filter.mpr ⟨given, decide_eq_true new⟩, by simp⟩

/-- Follows the edges from the jobs of a stack. A job is seen when it leaves the stack, where it may
lie more than once. -/
def follow (edges : List Edge) (seen : List JobId) : List JobId → List JobId
  | [] => seen
  | job :: stack =>
    if job ∈ seen then follow edges seen stack
    else follow edges (job :: seen) ((dependentsIn edges job).reverse ++ stack)
termination_by stack => ((edges.filter (·.source ∉ seen)).length, stack.length)
decreasing_by
  · exact Prod.Lex.right _ (by simp)
  · rename_i new
    by_cases none : dependentsIn edges job = []
    · have same : edges.filter (·.source ∉ job :: seen) = edges.filter (·.source ∉ seen) := by
        refine List.filter_congr fun edge given => ?_
        have other : edge.source ≠ job := by
          have starts := List.filter_eq_nil_iff.mp (List.map_eq_nil_iff.mp none) edge given
          simpa using starts
        simp [other]
      rw [same, none]
      exact Prod.Lex.right _ (by simp)
    · obtain ⟨v, waits⟩ := List.exists_mem_of_ne_nil _ none
      exact Prod.Lex.left _ _ (length_filter_source_lt new waits)

namespace Graph

/-- What is wrong with an edge, if anything: its source is looked up first. -/
def edgeError (jobs : List JobId) (edge : Edge) : Option GraphError :=
  if edge.source ∉ jobs then some (.unknownJob edge edge.source)
  else if edge.target ∉ jobs then some (.unknownJob edge edge.target)
  else if edge.source = edge.target then some (.selfDependency edge.source)
  else none

/-- The jobs in reverse order of finishing, in a search along the edges that starts from each job
in turn. -/
def finishOrder (jobs : List JobId) (edges : List Edge) : List JobId :=
  Search.finish (dependentsIn edges) jobs [] jobs

/-- The dependencies of a job, in the order of the job list. -/
def dependenciesInOrder (jobs : List JobId) (edges : List Edge) (job : JobId) : List JobId :=
  let sources := dependenciesIn edges job
  jobs.filter (· ∈ sources)

/-- Searches backwards from each job of the order in turn, over the jobs that no earlier search has
found. A job that such a search finds beyond its starting point depends, through others, on a job
that should have come before it. -/
def backwardFind (jobs : List JobId) (edges : List Edge) (fresh : List JobId) :
    List JobId → Option JobId
  | [] => none
  | start :: later =>
    match Search.visit (dependenciesInOrder jobs edges) fresh [start] with
    | (_ :: job :: _, _) => some job
    | (_, rest) => backwardFind jobs edges rest later

def build (jobs : List JobId) (edges : List Edge) : Except GraphError Graph :=
  match repeats [] jobs with
  | job :: _ => .error (.duplicateJob job)
  | [] =>
    match edges.findSome? (edgeError jobs) with
    | some error => .error error
    | none =>
      let edges := distinct edges
      let order := finishOrder jobs edges
      match backwardFind jobs edges jobs order with
      | some job => .error (.cycle job)
      | none => .ok ⟨jobs, edges, order⟩

variable (graph : Graph) (job : JobId)

def dependencies : List JobId := dependenciesIn graph.edges job

def dependents : List JobId := dependentsIn graph.edges job

def indegree : Nat := (graph.dependencies job).length

def roots : List JobId := graph.jobs.filter (graph.indegree · = 0)

/-- All jobs that wait for `job`, directly or through others, in ascending order. -/
def downstream : List JobId := JobId.sort (follow graph.edges [] (graph.dependents job).reverse)

end Graph

end Precedence

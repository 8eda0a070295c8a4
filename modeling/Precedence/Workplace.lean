import Precedence.Arguments.Reader
import Precedence.JobFile.Decode
import Precedence.Log.Filter
import Precedence.Program
import Precedence.Shell.Launch
/-!
# Where the program works

The files around the program: the job file is one of them, and the commands of the jobs find what
those before them have left. This, and the shell in `Precedence.Shell` that runs the commands, is
for trying the program out; what is proved holds of it wherever it works (`Program.Surroundings`).
-/

namespace Precedence.Workplace

open Shell (Files)

def contents (files : Files) (path : String) : JobFile.Contents :=
  let place := (files.find 0 Files.workplace.toList).toOption.getD 0
  match files.find place (Shell.ofString path) with
  | .error trouble => .refused trouble
  | .ok n =>
    let file := files.get n
    if file.isDirectory then .refused .isDirectory else .bytes (Shell.toBytes file.contents.toList)

/-- The files among which a program starts that finds a job file of a name, if there is one. -/
def around (name : String) : JobFile.Contents → Files
  | .bytes bytes => Files.withWork [(name, bytes)]
  | .refused _ => Files.withWork []

/-- What becomes of the commands of jobs that run one after the other. A job is not run if one that
it depends on has not succeeded. -/
def results (environment : List (String × String)) (file : JobFile) (graph : Graph)
    (files : Files) :
    List (JobId × ProcessResult) :=
  let start : Files × List (JobId × ProcessResult) := (files, [])
  (graph.order.foldl (fun (files, done) job =>
    let ready := (graph.dependencies job).all fun dependency =>
      ((done.lookup dependency).map (·.outcome dependency)) = some .success
    match file.spec? job, ready with
    | some spec, true =>
      let (result, files) := Shell.launchIn files environment spec.command
      (files, (job, result) :: done)
    | _, _ => (files, done)) start).2

def surroundings (processors : Nat) (environment : List (String × String)) (files : Files)
    (contents : JobFile.Contents) : Program.Surroundings Filter :=
  -- Commands run only if the program asks for what becomes of them.
  let found : Thunk (List (JobId × ProcessResult)) := .mk fun _ =>
    match JobFile.loadChecked contents with
    | .ok (file, graph) => results environment file graph files
    | .error _ => []
  { processors
    launch := fun job command =>
      (found.get.lookup job).getD (Shell.launchIn files environment command).1
    arguments := Arguments.read
    document := JobFile.ofText
    filters := Filter.language }

/-- The variables that the program hands on to commands: the filter of its log, if there is one. -/
def environment (filter : Option String) : List (String × String) :=
  filter.toList.map (fun text => ("RUNDAG_LOG", text)) ++ [("NO_COLOR", "1")]

end Precedence.Workplace

import Precedence.Scheduler
import Precedence.Inspect
import Precedence.Text.Blank
import Precedence.Text.Utf8
import Precedence.Trouble
/-!
# Job files

A job file names jobs, each with a command and the jobs that must come before it, and may set the
size of the pool. The jobs stand in ascending order of their names, each name once. `JobFile.check`
gives the precedence graph of a file, or the first thing that is wrong with it.
-/

namespace Precedence

structure JobSpec where
  command : String
  after : List JobId := []
  description : Option String := none
deriving DecidableEq, Repr, Inhabited

/-- Puts an entry to its place in an ascending list; an entry of the same name is replaced. -/
def putEntry (job : JobId) (spec : JobSpec) : List (JobId × JobSpec) → List (JobId × JobSpec)
  | [] => [(job, spec)]
  | entry :: rest =>
    if entry.1.name < job.name then entry :: putEntry job spec rest
    else if entry.1 = job then (job, spec) :: rest
    else (job, spec) :: entry :: rest

theorem mem_putEntry {job : JobId} {spec : JobSpec} {entries : List (JobId × JobSpec)}
    {entry : JobId × JobSpec} (h : entry ∈ putEntry job spec entries) :
    entry = (job, spec) ∨ entry ∈ entries := by
  induction entries with
  | nil => simpa [putEntry] using h
  | cons first rest ih => simp only [putEntry] at h; grind

theorem ascending_putEntry {job : JobId} {spec : JobSpec} {entries : List (JobId × JobSpec)}
    (h : entries.Pairwise fun a b => a.1.name < b.1.name) :
    (putEntry job spec entries).Pairwise fun a b => a.1.name < b.1.name := by
  induction entries with
  | nil => simp [putEntry]
  | cons first rest ih =>
    obtain ⟨above, sorted⟩ := List.pairwise_cons.mp h
    simp only [putEntry]
    split
    · rename_i below
      refine List.pairwise_cons.mpr ⟨fun entry member => ?_, ih sorted⟩
      rcases mem_putEntry member with rfl | member
      · exact below
      · exact above entry member
    · rename_i notBelow
      split
      · rename_i same
        exact List.pairwise_cons.mpr ⟨fun entry member => same ▸ above entry member, sorted⟩
      · rename_i different
        have first_above : job.name < first.1.name := by
          refine Std.lt_of_le_of_ne (Std.not_lt.mp notBelow) fun same => different ?_
          exact (congrArg JobId.mk same).symm
        refine List.pairwise_cons.mpr ⟨fun entry member => ?_, h⟩
        rcases List.mem_cons.mp member with rfl | member
        · exact first_above
        · exact Std.lt_trans first_above (above entry member)

structure JobFile where
  workers : Option Nat := none
  jobs : List (JobId × JobSpec) := []
  ascending : jobs.Pairwise fun a b => a.1.name < b.1.name := by simp

inductive JobFileError where
  | noJobs
  | zeroWorkers
  | emptyCommand (job : JobId)
  | unknownDependency (job dependency : JobId)
  | selfDependency (job : JobId)
  | graph (error : GraphError)
deriving DecidableEq, Repr

namespace JobFileError

def toError : JobFileError → Error
  | noJobs => .configuration "job file must contain at least one [job.<name>] section"
  | zeroWorkers => .configuration "[scheduler].workers must be >= 1 (got 0)"
  | emptyCommand job => .configuration ("job '" ++ job.name ++ "' has an empty \x60cmd\x60")
  | unknownDependency job dependency =>
    .configuration ("job '" ++ job.name ++ "' has unknown dependency '" ++ dependency.name ++
      "' in \x60after\x60")
  | selfDependency job =>
    .configuration ("job '" ++ job.name ++ "' cannot depend on itself in \x60after\x60")
  | graph error => error.toError

end JobFileError

namespace JobFile

def put (file : JobFile) (job : JobId) (spec : JobSpec) : JobFile where
  workers := file.workers
  jobs := putEntry job spec file.jobs
  ascending := ascending_putEntry file.ascending

def ids (file : JobFile) : List JobId := file.jobs.map (·.1)

def edgesInto (job : JobId) (spec : JobSpec) : List Edge := spec.after.map fun d => ⟨d, job⟩

/-- The edges into each job, with repetitions. -/
def edges (file : JobFile) : List Edge := file.jobs.flatMap fun (job, spec) => edgesInto job spec

def tasks (file : JobFile) : List (JobId × String) × List Edge :=
  file.jobs.foldl (fun (jobs, edges) (job, spec) =>
    (jobs ++ [(job, spec.command)],
      spec.after.foldl (fun edges dependency => edges ++ [⟨dependency, job⟩]) edges)) ([], [])

def spec? (file : JobFile) (job : JobId) : Option JobSpec := file.jobs.lookup job

def dependencyError (file : JobFile) (job dependency : JobId) : Option JobFileError :=
  if dependency ∉ file.ids then some (.unknownDependency job dependency)
  else if dependency = job then some (.selfDependency job)
  else none

/-- What is wrong with a job, if anything: its command comes before its dependencies. -/
def jobError (file : JobFile) (entry : JobId × JobSpec) : Option JobFileError :=
  if Text.allBlank entry.2.command then some (.emptyCommand entry.1)
  else entry.2.after.findSome? (file.dependencyError entry.1)

def check (file : JobFile) : Except JobFileError Graph :=
  if file.jobs = [] then .error .noJobs
  else if file.workers = some 0 then .error .zeroWorkers
  else
    match file.jobs.findSome? file.jobError with
    | some error => .error error
    | none =>
      match Graph.build file.ids file.edges with
      | .error error => .error (.graph error)
      | .ok graph => .ok graph

/-- The file as it is, with its graph, if nothing is wrong with it. -/
def validated (file : JobFile) : Except Error (JobFile × Graph) := do
  let graph ← file.check.mapError JobFileError.toError
  return (file, graph)

inductive Contents where
  | refused (trouble : Trouble)
  | bytes (bytes : List UInt8)
deriving DecidableEq, Repr

/-- Opens a job file, whose text is then decoded. -/
def loadBy (decode : String → Except TomlError JobFile) : Contents → Except Error JobFile
  | .refused trouble => .error (.io trouble.report)
  | .bytes bytes =>
    match Text.Utf8.text? bytes with
    | none => .error (.io "stream did not contain valid UTF-8")
    | some text => (decode text).mapError .toml

/-- The message with which a file is rejected that was meant to be right. -/
def rejection (error : JobFileError) : String :=
  s!"Failed to build valid config from builder: {error.toError.inspect}"

end JobFile

end Precedence

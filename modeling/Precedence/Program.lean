import Precedence.Arguments
import Precedence.Console
import Precedence.JobFile
import Precedence.Log.Language
import Precedence.Log.Setup
import Precedence.Log.Trace
/-!
# The program

The program reads a job file, checks it, and either lists the jobs or runs their commands and prints
its progress. What it prints, what it logs and how it ends are values: `perform` gives all of them
for arguments, a job file, and the results that the commands would have.
-/

namespace Precedence.Program

inductive Stop where
  | refused (error : Error)
  | jobFailed (job : JobId)
deriving DecidableEq, Repr

def Stop.fault : Stop → Fault
  | refused error => error.fault
  | jobFailed job => .ofMessage s!"run failed at job '{job.name}'"

/-- What the program finds around it. What it is given as texts is read by others. -/
structure Surroundings (F : Type) where
  processors : Nat
  launch : JobId → String → ProcessResult
  /-- What a plan comes to, as its threads happen to take turns. -/
  execute : Plan → Run := (Scheduler.execute · {})
  arguments : List String → Except UsageError Arguments
  document : String → Except TomlError JobFile
  filters : FilterLanguage F

variable {F : Type}

structure Performance where
  result : Except Stop Unit
  output : List UInt8 := []
  log : List LogRecord := []
  launched : List JobId := []

/-- The command of a job with its result; a job that the file does not name has none. -/
def commandResult (surroundings : Surroundings F) (file : JobFile) (job : JobId) :
    Option (String × ProcessResult) :=
  (file.tasks.1.lookup job).map fun command => (command, surroundings.launch job command)

def outcome (surroundings : Surroundings F) (file : JobFile) (job : JobId) : Outcome :=
  match commandResult surroundings file job with
  | some (_, result) => result.outcome job
  | none => .success

/-- The size of the pool: the arguments come before the file. -/
def workers (surroundings : Surroundings F) (arguments : Arguments) (file : JobFile) : Nat :=
  poolSize surroundings.processors (arguments.workers <|> file.workers)

def scheduler (surroundings : Surroundings F) (arguments : Arguments) (file : JobFile) :
    Except GraphError Scheduler :=
  Scheduler.make (file.tasks.1.map (·.1)) file.tasks.2 (workers surroundings arguments file)

def plan (surroundings : Surroundings F) (file : JobFile) (scheduler : Scheduler) : Plan where
  graph := scheduler.graph
  workers := scheduler.workers
  outcome := outcome surroundings file

/-! ## Dry runs -/

/-- The lines about one job: its command and its description from the file, and what it waits
for. -/
def listJob (file : JobFile) (graph : Graph) (job : JobId) : List String :=
  s!"  - {job.name}" ::
  (match file.spec? job with
    | none => []
    | some spec => s!"      cmd: {spec.command}" ::
        spec.description.toList.map fun text => s!"      description: {text}") ++
  (if graph.dependencies job = [] then []
    else [s!"      after: {JobId.commaList (graph.dependencies job)}"])

/-- The jobs in an order in which they could run. -/
def listing (file : JobFile) (graph : Graph) (workers : Nat) : List String :=
  ["rundag dry-run", s!"  workers = {workers}", "",
    s!"jobs ({graph.jobs.length}), in execution order:"] ++
  graph.order.flatMap (listJob file graph)

def unlines (lines : List String) : String := String.join (lines.map (· ++ "\n"))

/-! ## Runs -/

/-- What the events of a run print, in order: progress lines and the output of commands. -/
def transcript (surroundings : Surroundings F) (file : JobFile) (console : Console) :
    List Event → List UInt8
  | [] => []
  | .called worker callback :: rest =>
    let (line, next) := console.print (callback.progress worker)
    Text.Utf8.encode line ++ transcript surroundings file next rest
  | .ended _ job _ :: rest =>
    ((commandResult surroundings file job).map fun (_, result) => result.output).getD [] ++
      transcript surroundings file console rest
  | _ :: rest => transcript surroundings file console rest

/-- The last lines of a run, and how the program ends. Times are not measured here. -/
def conclude : Except Error Verdict → List String × Except Stop Unit
  | .error error => ([], .error (.refused error))
  | .ok (.succeeded report) =>
    ([s!"rundag: {report.completed.length} jobs succeeded on {report.workers} workers in 0 ms"],
      .ok ())
  | .ok (.failed report) =>
    (s!"rundag: job '{report.failure.job.name}' failed: {report.failure.error.full}" ::
      (if report.neverRan = [] then []
        else [s!"rundag: never ran: {JobId.commaList report.neverRan}"]),
      .error (.jobFailed report.failure.job))

/-- The records of an event, with those of the command of a job before the end of its body. -/
def eventRecords (surroundings : Surroundings F) (file : JobFile) (plan : Plan) (event : Event) :
    List LogRecord :=
  (match event with
    | .ended _ job _ =>
      match commandResult surroundings file job with
      | some (command, result) => LogRecord.ofCommand job command result
      | none => []
    | _ => []) ++
  LogRecord.ofEvent plan.graph.jobs.length plan.workers event

/-- The jobs whose bodies were entered, in order. -/
def launches : List Event → List JobId
  | [] => []
  | .began _ job :: rest => job :: launches rest
  | _ :: rest => launches rest

def runJobs (surroundings : Surroundings F) (file : JobFile) (scheduler : Scheduler) :
    Performance :=
  let plan := plan surroundings file scheduler
  let run := surroundings.execute plan
  let events := run.history.reverse
  let (lines, result) := conclude run.result
  { result
    output := transcript surroundings file ⟨plan.graph.jobs.length, 0⟩ events ++
      Text.Utf8.encode (unlines lines)
    launched := launches events
    log := LogRecord.ofStart plan.graph plan.workers ++
      events.flatMap (eventRecords surroundings file plan) ++
      [⟨.info, LogRecord.schedulerArea, "scheduler run finished",
        [("state", (Scheduler.settledState run.result).text)]⟩] }

def listJobs (file : JobFile) (scheduler : Scheduler) : Performance where
  result := .ok ()
  output := Text.Utf8.encode (unlines (listing file scheduler.graph scheduler.workers))
  log := [⟨.debug, "rundag", "dry-run complete (no execution)", []⟩]

def parsedRecord (path : String) (file : JobFile) : LogRecord :=
  ⟨.debug, "rundag::config::loader", "job file parsed",
    [("path", path), ("jobs", toString file.jobs.length)]⟩

def checkRecords (file : JobFile) : List LogRecord :=
  match file.check with
  | .ok _ => LogRecord.ofBuild file.ids file.edges true
  | .error (.graph _) => LogRecord.ofBuild file.ids file.edges false
  | .error _ => []

/-- The records of a file that has been checked, when its scheduler is made. The graph is built
once more. -/
def checkedRecords (path : String) (file : JobFile) (made : Except GraphError Scheduler) :
    List LogRecord :=
  let (jobs, edges) := file.tasks
  ⟨.info, "rundag", "job file loaded", [("path", path), ("jobs", toString file.jobs.length)]⟩ ::
  match made with
  | .error _ => LogRecord.ofBuild (jobs.map (·.1)) edges false
  | .ok scheduler =>
    LogRecord.ofBuild (jobs.map (·.1)) edges true ++
    [⟨.info, LogRecord.schedulerArea, "scheduler constructed",
      [("jobs", toString scheduler.graph.jobs.length),
        ("edges", toString scheduler.graph.edges.length),
        ("workers", toString scheduler.workers)]⟩]

def carryOut (surroundings : Surroundings F) (arguments : Arguments) (file : JobFile) :
    Performance :=
  let made := scheduler surroundings arguments file
  let rest : Performance :=
    match made with
    | .error error => { result := .error (.refused error.toError) }
    | .ok scheduler =>
      if arguments.dryRun then listJobs file scheduler else runJobs surroundings file scheduler
  { rest with log := checkedRecords arguments.config file made ++ rest.log }

def perform (surroundings : Surroundings F) (arguments : Arguments) (contents : JobFile.Contents) :
    Performance :=
  match JobFile.loadBy surroundings.document contents with
  | .error error => { result := .error (.refused error) }
  | .ok file =>
    let first := parsedRecord arguments.config file :: checkRecords file
    match file.check with
    | .error error => { result := .error (.refused error.toError), log := first }
    | .ok _ =>
      let rest := carryOut surroundings arguments file
      { rest with log := first ++ rest.log }

/-! ## From the command line to the exit code -/

structure Session where
  exitCode : Nat
  output : List UInt8 := []
  log : List LogRecord := []
  /-- The message at the end, if the program failed. -/
  complaint : Option String := none

/-- Runs the program with the words of its command line, the filter from the environment, and what
is found at the paths of job files. -/
def session (surroundings : Surroundings F) (words : List String) (environment : Option String)
    (find : String → JobFile.Contents) : Session :=
  match surroundings.arguments words with
  | .error error => { exitCode := error.exitCode, output := Text.Utf8.encode error.text }
  | .ok arguments =>
    let (filter, rejected) := surroundings.filters.resolve arguments.logLevel environment
    let performance := perform surroundings arguments (find arguments.config)
    let log := (rejected.toList.map LogSetup.rejectionRecord ++ performance.log).filter
      (surroundings.filters.lets filter)
    match performance.result with
    | .ok () => { exitCode := 0, output := performance.output, log }
    | .error stop =>
      { exitCode := 1, output := performance.output, log
        complaint := some s!"rundag error: {stop.fault.report}" }

end Precedence.Program

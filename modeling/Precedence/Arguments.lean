import Precedence.Log.Level

namespace Precedence

inductive UsageError where
  /-- The long or the short help text was asked for. -/
  | help (long : Bool)
  | version
  | unknownArgument
  /-- A value is missing, empty, or none of those that are possible. -/
  | invalidValue
  | noCount
  | repeatedOption
  | surplusValue
deriving DecidableEq, Repr

def UsageError.exitCode : UsageError → Nat
  | help _ | version => 0
  | _ => 2

structure Arguments where
  config : String := "Rundag.toml"
  workers : Option Nat := none
  logLevel : Option Level := none
  dryRun : Bool := false
deriving DecidableEq, Repr

namespace Arguments

def versionText : String := "rundag 0.1.0\n"

def longHelp : String := "Run a DAG of shell jobs on a pool of worker threads.

Usage: rundag [OPTIONS]

Options:
      --config <PATH>
          Path to the job file (TOML).
          \n          Default: `Rundag.toml` in the current working directory.
          \n          [default: Rundag.toml]

      --workers <N>
          Number of worker threads (overrides `[scheduler].workers`).
          \n          Values below 2 are raised to 2.

      --log-level <LEVEL>
          Logging level (error, warn, info, debug, trace).
          \n          If omitted, `RUNDAG_LOG` or a default level will be used.
          \n          [possible values: error, warn, info, debug, trace]

      --dry-run
          Parse + validate, print the jobs in execution order, run nothing

  -h, --help
          Print help (see a summary with '-h')

  -V, --version
          Print version
"

def shortHelp : String := "Run a DAG of shell jobs on a pool of worker threads.

Usage: rundag [OPTIONS]

Options:
      --config <PATH>      Path to the job file (TOML) [default: Rundag.toml]
      --workers <N>        Number of worker threads (overrides `[scheduler].workers`)
      --log-level <LEVEL>  Logging level (error, warn, info, debug, trace) [possible values: error, warn, info, debug, trace]
      --dry-run            Parse + validate, print the jobs in execution order, run nothing
  -h, --help               Print help (see more with '--help')
  -V, --version            Print version
"

end Arguments

/-- What is printed on the standard output instead of a start. -/
def UsageError.text : UsageError → String
  | help true => Arguments.longHelp
  | help false => Arguments.shortHelp
  | version => Arguments.versionText
  | _ => ""

end Precedence

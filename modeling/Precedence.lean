import Precedence.Job
import Precedence.Fault
import Precedence.Error
import Precedence.Search
import Precedence.Graph
import Precedence.Countdown
import Precedence.Backlog
import Precedence.Depot
import Precedence.Crowd
import Precedence.Tally
import Precedence.Gate
import Precedence.Failure
import Precedence.Contest
import Precedence.Board
import Precedence.Worker
import Precedence.Pool
import Precedence.Pool.Step
import Precedence.Pool.Rounds
import Precedence.Text.Escaped
import Precedence.Text.Alphanumeric
import Precedence.Text.Blank
import Precedence.Text.Utf8
import Precedence.Text.Quoted
import Precedence.Inspect
import Precedence.Scheduler
import Precedence.Journal
import Precedence.JobSet
import Precedence.Logbook
import Precedence.Console
import Precedence.Process
import Precedence.Trouble
import Precedence.Decimal.Binary
import Precedence.Decimal.Places
import Precedence.Toml.Moment
import Precedence.Toml.Value
import Precedence.Toml.Scalar
import Precedence.Toml.Quoted
import Precedence.Toml.Document
import Precedence.JobFile
import Precedence.JobFile.Decode
import Precedence.Text.Count
import Precedence.Text.LowerCase
import Precedence.Log.Level
import Precedence.Arguments
import Precedence.Arguments.Reader
import Precedence.Log.Record
import Precedence.Log.Language
import Precedence.Log.Pattern
import Precedence.Log.Filter
import Precedence.Log.Setup
import Precedence.Log.Trace
import Precedence.Program
import Precedence.Proofs.Graph
import Precedence.Proofs.Acceptance
import Precedence.Proofs.Countdown
import Precedence.Proofs.Pool.Census
import Precedence.Proofs.Pool.Chronicle
import Precedence.Proofs.Pool.Effort
import Precedence.Proofs.Pool.Progress
import Precedence.Proofs.Pool.Verdict
import Precedence.Proofs.Pool.Reckoning
import Precedence.Proofs.Pool.Report
import Precedence.Proofs.Scheduler
import Precedence.Proofs.Lifecycle
import Precedence.Proofs.Countdown.Series
import Precedence.Proofs.Pool.Latecomer
import Precedence.Proofs.Pool.Occupancy
import Precedence.Proofs.Pool.Narration
import Precedence.Proofs.Console
import Precedence.Proofs.JobFile
import Precedence.Proofs.Program
import Precedence.Proofs.Depot
import Precedence.Proofs.Worker
import Precedence.Adjacency
import Precedence.Proofs.Adjacency
import Precedence.Proofs.Reachability
import Precedence.Proofs.Rejection
import Precedence.Proofs.BreadthFirst
import Precedence.Proofs.Worker.Order
import Precedence.Proofs.Countdown.Repetition
import Precedence.Proofs.Pool.Interruption
import Precedence.Proofs.Depot.History
import Precedence.Proofs.Sums
import Precedence.Proofs.Crowd
import Precedence.Proofs.Contest
import Precedence.Proofs.Gate
import Precedence.Proofs.Listing
import Precedence.Proofs.Pool.Departure
import Precedence.Proofs.Process
import Precedence.Proofs.Text.LowerCase
import Precedence.Proofs.Text.Utf8
import Precedence.Proofs.Text.Split
import Precedence.Proofs.Log.Written
import Precedence.Proofs.Log.Filter
import Precedence.Proofs.Log.LowerCase
import Precedence.Proofs.Journal
import Precedence.Proofs.JobSet
import Precedence.Proofs.Logbook
import Precedence.Shell.Number
import Precedence.Shell.Command
import Precedence.Shell.Reader
import Precedence.Shell.Arithmetic
import Precedence.Shell.Pattern
import Precedence.Shell.Files
import Precedence.Shell.State
import Precedence.Shell.Field
import Precedence.Shell.Format
import Precedence.Shell.Question
import Precedence.Shell.Builtin
import Precedence.Shell.Glob
import Precedence.Shell.Regex
import Precedence.Shell.Tool.Basic
import Precedence.Shell.Tool.Text
import Precedence.Shell.Tool.Sort
import Precedence.Shell.Tool.Select
import Precedence.Shell.Tool.Value
import Precedence.Shell.Tool.Place
import Precedence.Shell.Tool.Property
import Precedence.Shell.Tool.Compare
import Precedence.Shell.Tool.Digest
import Precedence.Shell.Tool.Portion
import Precedence.Shell.Tool.Date
import Precedence.Shell.Tool.Grep
import Precedence.Shell.Tool.Sed
import Precedence.Shell.Tool.Process
import Precedence.Shell.Tool.Launcher
import Precedence.Shell.Tool.Find
import Precedence.Shell.Tool.Awk.Value
import Precedence.Shell.Tool.Awk.Program
import Precedence.Shell.Tool.Awk.Token
import Precedence.Shell.Tool.Awk.Reader
import Precedence.Shell.Tool.Awk.Text
import Precedence.Shell.Tool.Awk.Run
import Precedence.Shell.Tool
import Precedence.Shell.Run
import Precedence.Shell.Launch
import Precedence.Workplace
import Precedence.Main

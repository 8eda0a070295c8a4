import Precedence.Failure
import Precedence.Text.Blank
import Precedence.Text.Utf8
/-!
# Jobs that are commands

A command is handed to a shell as a process. When it fails, the error tells its exit code and the
last line of its error output that is not blank.
-/

namespace Precedence

/-- How a process ended. Not everywhere are exit codes natural numbers. -/
inductive ExitStatus where
  | exited (code : Int)
  | signalled (signal : Nat)
deriving DecidableEq, Repr

/-- The exit code; a process that was ended by a signal has none. -/
def ExitStatus.code : ExitStatus → Int
  | exited code => code
  | signalled _ => -1

def ExitStatus.success (status : ExitStatus) : Bool := status = .exited 0

inductive ProcessResult where
  | unspawned (cause : String)
  | ended (status : ExitStatus) (output errors : List UInt8)
deriving DecidableEq, Repr

namespace ProcessResult

/-- The bytes between line breaks; no empty part follows a last line break. -/
def chunks (bytes : List UInt8) : List (List UInt8) :=
  match bytes.splitOn (0x0A : UInt8) with
  | [] => []
  | parts => if parts.getLast? = some [] then parts.dropLast else parts

/-- A part of the error output as a line: malformed text replaced, and no carriage returns at the
end. -/
def line (chunk : List UInt8) : String :=
  .ofList (Text.dropEnd (· = '\r') (Text.Utf8.lossy chunk).toList)

def errorLines (errors : List UInt8) : List String := (chunks errors).map line

def lastWords (errors : List UInt8) : Option String :=
  (errorLines errors).reverse.find? fun line => !Text.allBlank line

def output : ProcessResult → List UInt8
  | unspawned _ => []
  | ended _ output _ => output

def outcome (job : JobId) : ProcessResult → Outcome
  | unspawned cause => .failure ⟨s!"spawning process for job '{job.name}'", [cause]⟩
  | ended status _ errors =>
    if status.success then .success
    else
      .failure <| .ofMessage <|
        match lastWords errors with
        | some line => s!"command exited with code {status.code}: {line}"
        | none => s!"command exited with code {status.code}"

end ProcessResult

end Precedence

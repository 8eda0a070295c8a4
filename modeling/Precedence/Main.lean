import Precedence.Workplace

open Precedence

/-- The size of the pool when neither the arguments nor the job file set it. -/
def processors : Nat := 4

def find (path : String) : IO JobFile.Contents := do
  try
    return .bytes (← IO.FS.readBinFile path).toList
  catch
    | .noFileOrDirectory .. => return .refused .absent
    | .inappropriateType _ code _ =>
      return .refused (if code.toNat = Trouble.notDirectory.number then .notDirectory
        else .isDirectory)
    | .permissionDenied .. => return .refused .denied
    | _ => return .refused .isDirectory

def main (words : List String) : IO UInt32 := do
  let path := match Arguments.read words with
    | .ok arguments => arguments.config
    | .error _ => ({} : Arguments).config
  let contents ← find path
  let filter ← IO.getEnv "RUNDAG_LOG"
  let surroundings := Workplace.surroundings processors (Workplace.environment filter)
    (Workplace.around path contents) contents
  let session := Program.session surroundings words filter fun _ => contents
  for record in session.log do
    IO.eprintln record.line
  let output ← IO.getStdout
  output.write ⟨session.output.toArray⟩
  output.flush
  for complaint in session.complaint do
    IO.eprintln complaint
  return session.exitCode.toUInt32

import Precedence.Fault
import Precedence.Log.Record

namespace Precedence.LogSetup

def rejectionRecord (text : String) : LogRecord :=
  ⟨.warn, "rundag::logging", "ignoring unparsable RUNDAG_LOG; using info", [("value", text)]⟩

def alreadySetUp : Fault := .ofMessage
  "failed to install logging subscriber: a global default trace dispatcher has already been set"

def install (installed : Bool) : Except Fault Unit :=
  if installed then .error alreadySetUp else .ok ()

end Precedence.LogSetup

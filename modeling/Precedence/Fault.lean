namespace Precedence

/-- A message with the messages of its causes, outermost first. -/
structure Fault where
  top : String
  causes : List String
deriving DecidableEq, Repr, Inhabited

namespace Fault

def ofMessage (text : String) : Fault := ⟨text, []⟩

def context (text : String) (fault : Fault) : Fault := ⟨text, fault.top :: fault.causes⟩

def messages (fault : Fault) : List String := fault.top :: fault.causes

/-- All messages on one line. -/
def full (fault : Fault) : String := ": ".intercalate fault.messages

def flatten (fault : Fault) : Fault := ofMessage fault.full

/-- The first message, or an empty one, around the others. -/
def ofMessages : List String → Fault
  | [] => ofMessage ""
  | top :: causes => ⟨top, causes⟩

/-- The lines of a cause, set in below its number. -/
def indented (first other text : String) : String :=
  first ++ ("\n" ++ other).intercalate (text.splitOn "\n")

/-- The message, and below it the causes, numbered when there are several. -/
def report (fault : Fault) : String :=
  match fault.causes with
  | [] => fault.top
  | [cause] => fault.top ++ "\n\nCaused by:\n" ++ indented "    " "    " cause
  | causes => fault.top ++ "\n\nCaused by:\n" ++ "\n".intercalate (causes.zipIdx.map
      fun (cause, n) =>
        indented ("".pushn ' ' (5 - (toString n).length) ++ toString n ++ ": ") "       " cause)

end Fault

end Precedence

import Precedence.Crowd
import Precedence.Failure
/-!
# A latch that several threads use

Threads report what stops a run, look whether something did, and take out what was reported. The
slot of the latch is behind a lock, and its flag is not: whoever only looks takes no lock. A report
that finds the flag down fills the slot first and raises the flag later, so a look may come in
between.
-/

namespace Precedence

structure Contest where
  latch : StopLatch := {}
  locked : Bool := false
deriving DecidableEq, Repr

namespace Contest

inductive Call where
  /-- Reports a cause, and is told whether it was the first. -/
  | report (cause : StopCause)
  | look
  | take
deriving DecidableEq, Repr

inductive Stand where
  /-- Between two calls. -/
  | free
  /-- Holds the lock, and is about to look at the flag. -/
  | checking (cause : StopCause)
  /-- Holds the lock, has found the flag down, and is about to fill the slot. -/
  | filling (cause : StopCause)
  /-- Holds the lock, has filled the slot, and is about to raise the flag. -/
  | raising (cause : StopCause)
  /-- Holds the lock, and is about to empty the slot. -/
  | emptying
  /-- Holds the lock, and gives it back next. -/
  | leaving
deriving DecidableEq, Repr

inductive Entry where
  | reported (cause : StopCause) (first : Bool)
  | looked (stopped : Bool)
  | took (found : Option StopCause)
deriving DecidableEq, Repr

def Stand.holds : Stand → Bool
  | .free => false
  | _ => true

/-- What a call does once it holds the lock. A look takes no lock. -/
def Call.entrance : Call → Option Stand
  | .report cause => some (.checking cause)
  | .look => none
  | .take => some .emptying

inductive Act (s : Contest) :
    Thread Stand Call → Option Entry → Contest → Thread Stand Call → Prop where
  | looks {rest : List Call} :
      Act s ⟨.free, .look :: rest⟩ (some (.looked s.latch.stopped)) s ⟨.free, rest⟩
  | enters {call : Call} {stand : Stand} {rest : List Call} (opens : call.entrance = some stand)
      (free : s.locked = false) :
      Act s ⟨.free, call :: rest⟩ none { s with locked := true } ⟨stand, rest⟩
  | isRefused {cause : StopCause} {rest : List Call} (stopped : s.latch.stopped = true) :
      Act s ⟨.checking cause, rest⟩ (some (.reported cause false)) s ⟨.leaving, rest⟩
  | isAdmitted {cause : StopCause} {rest : List Call} (down : s.latch.stopped = false) :
      Act s ⟨.checking cause, rest⟩ none s ⟨.filling cause, rest⟩
  | fills {cause : StopCause} {rest : List Call} :
      Act s ⟨.filling cause, rest⟩ none { s with latch := { s.latch with held := some cause } }
        ⟨.raising cause, rest⟩
  | raises {cause : StopCause} {rest : List Call} :
      Act s ⟨.raising cause, rest⟩ (some (.reported cause true))
        { s with latch := { s.latch with stopped := true } } ⟨.leaving, rest⟩
  | empties {rest : List Call} :
      Act s ⟨.emptying, rest⟩ (some (.took s.latch.held)) { s with latch := s.latch.take }
        ⟨.leaving, rest⟩
  | leaves {rest : List Call} :
      Act s ⟨.leaving, rest⟩ none { s with locked := false } ⟨.free, rest⟩

def protocol : Protocol Contest Stand Call Entry where
  Act _ := Act

abbrev Rivals := Crowd Contest Stand Call Entry

def start (scripts : List (List Call)) : Rivals := .start {} .free scripts

end Contest

end Precedence

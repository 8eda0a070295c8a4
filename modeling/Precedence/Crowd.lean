/-!
# Threads that share a state

Several threads use one state. Each of them makes some calls, one after the other, and takes a call
in actions, each of which is one access to what they share. A `Protocol` says what the actions are.
The threads take turns in any order (`Protocol.Trail`).

At the action that decides a call the thread notes what the call comes to, so `Crowd.entries` has
the calls in the order in which they were decided.
-/

namespace Precedence

structure Thread (Stand Call : Type) where
  /-- Where it stands in a call, or that it is between two calls. -/
  stand : Stand
  /-- The calls that it has not begun. -/
  calls : List Call
deriving DecidableEq, Repr

structure Crowd (Shared Stand Call Entry : Type) where
  shared : Shared
  threads : List (Thread Stand Call)
  /-- What calls came to, each with the place of its thread. -/
  entries : List (Nat × Entry) := []
deriving DecidableEq, Repr

/-- How threads use what they share. -/
structure Protocol (Shared Stand Call Entry : Type) where
  /-- An action of the thread at a place: the shared state and the thread as they are, what is
  noted, and how they are left. -/
  Act : Nat → Shared → Thread Stand Call → Option Entry → Shared → Thread Stand Call → Prop
  /-- What befalls the shared state although no thread acts. -/
  Stray : Shared → Shared → Prop := fun _ _ => False

variable {Shared Stand Call Entry : Type}

/-- What the calls of one thread came to. -/
def entriesAt (place : Nat) (entries : List (Nat × Entry)) : List Entry :=
  (entries.filter (·.1 = place)).map (·.2)

namespace Crowd

def start (shared : Shared) (idle : Stand) (scripts : List (List Call)) :
    Crowd Shared Stand Call Entry where
  shared
  threads := scripts.map (⟨idle, ·⟩)

def after (s : Crowd Shared Stand Call Entry) (place : Nat) (note : Option Entry) (shared : Shared)
    (thread : Thread Stand Call) : Crowd Shared Stand Call Entry where
  shared
  threads := s.threads.set place thread
  entries := s.entries ++ note.toList.map (place, ·)

/-- What the calls came to, whoever made them. -/
def seen (s : Crowd Shared Stand Call Entry) : List Entry := s.entries.map (·.2)

def doneBy (s : Crowd Shared Stand Call Entry) (place : Nat) : List Entry :=
  entriesAt place s.entries

/-- Every thread has made all its calls. -/
def Done (s : Crowd Shared Stand Call Entry) (idle : Stand) : Prop :=
  ∀ c ∈ s.threads, c = ⟨idle, []⟩

instance [DecidableEq Stand] [DecidableEq Call] (s : Crowd Shared Stand Call Entry)
    (idle : Stand) : Decidable (s.Done idle) :=
  inferInstanceAs (Decidable (∀ c ∈ s.threads, c = ⟨idle, []⟩))

end Crowd

namespace Protocol

variable (p : Protocol Shared Stand Call Entry)

inductive Step : Crowd Shared Stand Call Entry → Crowd Shared Stand Call Entry → Prop where
  | act {s : Crowd Shared Stand Call Entry} {place : Nat} {c d : Thread Stand Call}
      {note : Option Entry} {shared : Shared} (standing : s.threads[place]? = some c)
      (acts : p.Act place s.shared c note shared d) : Step s (s.after place note shared d)

/-- That many actions and stray events, in some order. -/
inductive Trail (s : Crowd Shared Stand Call Entry) :
    Nat → Nat → Crowd Shared Stand Call Entry → Prop where
  | start : Trail s 0 0 s
  | step {steps strays : Nat} {t u : Crowd Shared Stand Call Entry}
      (before : Trail s steps strays t) (step : p.Step t u) : Trail s (steps + 1) strays u
  | stray {steps strays : Nat} {t : Crowd Shared Stand Call Entry} {shared : Shared}
      (before : Trail s steps strays t) (stray : p.Stray t.shared shared) :
      Trail s steps (strays + 1) { t with shared }

end Protocol

end Precedence

import Precedence.Pool

namespace Precedence.Pool

/-- One action of one thread. -/
inductive Step (plan : Plan) : Pool → Pool → Prop where
  | work {s t : Pool} {worker : Nat} {position : Position}
      (standing : s.positions[worker]? = some position)
      (acts : s.act plan worker position = some t) : Step plan s t
  | notify {s : Pool} {worker other : Nat} {ready : List JobId}
      (standing : s.positions[worker]? = some (.notifying ready))
      (asleep : s.positions[other]? = some .parked) :
      Step plan s (s.notifyOne worker (some other) ready)
  | notifyNobody {s : Pool} {worker : Nat} {ready : List JobId}
      (standing : s.positions[worker]? = some (.notifying ready))
      (nobody : .parked ∉ s.positions) : Step plan s (s.notifyOne worker none ready)
  | orchestrate {s t : Pool} (acts : s.orchestrate plan = some t) : Step plan s t

/-- A sleeping thread wakes although nobody woke it. -/
inductive Stray : Pool → Pool → Prop where
  | worker {s : Pool} {worker : Nat} (asleep : s.positions[worker]? = some .parked) :
      Stray s (s.place worker .taking)
  | orchestrator {s : Pool} (asleep : s.stage = .asleep) : Stray s { s with stage := .watching }

/-- Threads act and awake in any order. -/
inductive Reachable (plan : Plan) : Pool → Prop where
  | start : Reachable plan (.start plan)
  | next {s t : Pool} : Reachable plan s → Step plan s t → Reachable plan t
  | stray {s t : Pool} : Reachable plan s → Stray s t → Reachable plan t

end Precedence.Pool

import Precedence.Pool.Step
/-!
# Running a pool in rounds

One interleaving, chosen so that it can be computed: in every round the orchestrator and then each
worker takes one action, if it can. A body returns only when its pace allows it; when nothing else
can move, the body with the least patience returns anyway. Every state of a run in rounds is
reachable (`reachable_run`).
-/

namespace Precedence.Pool

structure Pace where
  /-- Whether the body of a job may return after what has happened. -/
  free : List Event → JobId → Bool := fun _ _ => true
  /-- How long the body of a job waits at most, in milliseconds. -/
  patience : JobId → Nat := fun _ => 0

def sleeper (s : Pool) : Option Nat := s.positions.findIdx? (· = .parked)

def advance (s : Pool) (plan : Plan) (pace : Pace) (worker : Nat) : Option Pool :=
  match s.positions[worker]? with
  | none => none
  | some (.notifying ready) => some (s.notifyOne worker s.sleeper ready)
  | some (.running job) =>
    if pace.free s.history job then s.act plan worker (.running job) else none
  | some position => s.act plan worker position

/-- Lets the given workers act in turn. Tells whether one of them did. -/
def lap (plan : Plan) (pace : Pace) : List Nat → Pool × Bool → Pool × Bool
  | [], state => state
  | worker :: rest, (s, moved) =>
    match s.advance plan pace worker with
    | some t => lap plan pace rest (t, true)
    | none => lap plan pace rest (s, moved)

def bodies (s : Pool) : List (Nat × JobId) :=
  s.positions.zipIdx.filterMap fun
    | (.running job, worker) => some (worker, job)
    | _ => none

/-- Of two bodies the one that returns first, the earlier one if they are as patient. -/
def Pace.hastier (pace : Pace) : Option (Nat × JobId) → Nat × JobId → Option (Nat × JobId)
  | none, body => some body
  | some best, body => some (if pace.patience body.2 < pace.patience best.2 then body else best)

def leastPatient (s : Pool) (pace : Pace) : Option (Nat × JobId) :=
  s.bodies.foldl pace.hastier none

def lead (s : Pool) (plan : Plan) : Pool × Bool :=
  match s.orchestrate plan with
  | some t => (t, true)
  | none => (s, false)

/-- One round; no answer if nothing can move. -/
def round (s : Pool) (plan : Plan) (pace : Pace) : Option Pool :=
  match lap plan pace (List.range s.positions.length) (s.lead plan) with
  | (t, true) => some t
  | (t, false) => (t.leastPatient pace).map fun (worker, job) => t.finishBody plan worker job

def run (plan : Plan) (pace : Pace) : Nat → Pool → Pool
  | 0, s => s
  | n + 1, s =>
    match s.round plan pace with
    | some t => run plan pace n t
    | none => s

/-- At least as many steps as a run of this graph can take in a pool of `workers`. -/
def stepBound (graph : Graph) (workers : Nat) : Nat :=
  (2 * workers + 21) * graph.jobs.length + (3 * workers + 7)

def finalState (plan : Plan) (pace : Pace) : Pool :=
  run plan pace (stepBound plan.graph plan.workers) (.start plan)

theorem sleeper_parked {s : Pool} {other : Nat} (h : s.sleeper = some other) :
    s.positions[other]? = some .parked := by
  obtain ⟨bound, parked, _⟩ := List.findIdx?_eq_some_iff_getElem.mp h
  exact List.getElem?_eq_some_iff.mpr ⟨bound, by simpa using parked⟩

theorem sleeper_none {s : Pool} (h : s.sleeper = none) : .parked ∉ s.positions := by
  intro member
  have := List.findIdx?_eq_none_iff.mp h _ member
  simp at this

theorem step_of_advance {s t : Pool} {plan : Plan} {pace : Pace} {worker : Nat}
    (h : s.advance plan pace worker = some t) : Step plan s t := by
  simp only [advance] at h
  split at h
  · simp at h
  · rename_i ready standing
    injection h with h
    subst h
    cases found : s.sleeper with
    | none => exact .notifyNobody standing (sleeper_none found)
    | some other => exact .notify standing (sleeper_parked found)
  · rename_i job standing
    split at h
    · exact .work standing h
    · simp at h
  · rename_i position _ _ standing
    exact .work standing h

theorem reachable_lap {plan : Plan} {pace : Pace} (workers : List Nat) {state : Pool × Bool}
    (h : Reachable plan state.1) : Reachable plan (lap plan pace workers state).1 := by
  induction workers generalizing state with
  | nil => exact h
  | cons worker rest ih =>
    obtain ⟨s, moved⟩ := state
    simp only [lap]
    split
    · rename_i t acts
      exact ih (.next h (step_of_advance acts))
    · exact ih h

theorem mem_bodies {s : Pool} {worker : Nat} {job : JobId} :
    (worker, job) ∈ s.bodies ↔ s.positions[worker]? = some (.running job) := by
  simp only [bodies, List.mem_filterMap, Prod.exists, List.mem_zipIdx_iff_getElem?]
  constructor
  · rintro ⟨position, index, standing, chosen⟩
    split at chosen
    · rename_i job' worker' same
      simp only [Prod.mk.injEq, Option.some.injEq] at same chosen
      obtain ⟨rfl, rfl⟩ := same
      obtain ⟨rfl, rfl⟩ := chosen
      exact standing
    · simp at chosen
  · exact fun standing => ⟨_, _, standing, rfl⟩

theorem hastier_mem (pace : Pace) (bodies : List (Nat × JobId)) (best : Option (Nat × JobId))
    {body : Nat × JobId} (h : bodies.foldl pace.hastier best = some body) :
    body ∈ bodies ∨ best = some body := by
  induction bodies generalizing best with
  | nil => exact .inr h
  | cons first rest ih =>
    rw [List.foldl_cons] at h
    obtain inside | chosen := ih _ h
    · exact .inl (List.mem_cons_of_mem _ inside)
    · cases best with
      | none => exact .inl (Option.some.inj chosen ▸ List.mem_cons_self)
      | some other =>
        simp only [Pace.hastier, Option.some.injEq] at chosen
        split at chosen
        · exact .inl (chosen ▸ List.mem_cons_self)
        · exact .inr (congrArg some chosen)

theorem leastPatient_running {s : Pool} {pace : Pace} {worker : Nat} {job : JobId}
    (h : s.leastPatient pace = some (worker, job)) :
    s.positions[worker]? = some (.running job) :=
  mem_bodies.mp ((hastier_mem pace s.bodies none h).resolve_right (by simp))

theorem reachable_lead {s : Pool} {plan : Plan} (h : Reachable plan s) :
    Reachable plan (s.lead plan).1 := by
  unfold lead
  split
  · rename_i t acts; exact .next h (.orchestrate acts)
  · exact h

theorem reachable_round {s t : Pool} {plan : Plan} {pace : Pace} (h : Reachable plan s)
    (moved : s.round plan pace = some t) : Reachable plan t := by
  have after : Reachable plan (lap plan pace (List.range s.positions.length) (s.lead plan)).1 :=
    reachable_lap _ (reachable_lead h)
  unfold round at moved
  split at moved
  · rename_i u same
    rw [same] at after
    exact Option.some.inj moved ▸ after
  · rename_i u same
    rw [same] at after
    obtain ⟨⟨worker, job⟩, found, rfl⟩ := Option.map_eq_some_iff.mp moved
    exact .next after (.work (leastPatient_running found) rfl)

theorem reachable_run {s : Pool} {plan : Plan} {pace : Pace} (n : Nat) (h : Reachable plan s) :
    Reachable plan (run plan pace n s) := by
  induction n generalizing s with
  | zero => exact h
  | succ n ih =>
    simp only [run]
    split
    · rename_i t moved; exact ih (reachable_round h moved)
    · exact h

theorem reachable_finalState (plan : Plan) (pace : Pace) :
    Reachable plan (finalState plan pace) := reachable_run _ .start

end Precedence.Pool

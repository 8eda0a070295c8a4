import Precedence.Proofs.Pool.Progress
import Precedence.Proofs.Pool.Verdict
/-!
# A run in rounds is a run

A round takes at least one step unless no thread can act (`round_toil_lt`, `no_step_of_round`), so
after `stepBound` rounds a pool has returned. Therefore `Scheduler.execute` always gives what some
run of its plan gives (`ends_execute`), and what holds of all runs holds of it.
-/

namespace Precedence

/-- A finished run of a plan, whatever the order in which its threads act. -/
inductive Plan.Ends (plan : Plan) : Run → Prop where
  | idle (empty : plan.graph.jobs = []) : plan.Ends { result := .ok Scheduler.nothingToRun }
  | rootless (nonempty : plan.graph.jobs ≠ []) (rootless : plan.graph.roots = []) :
      plan.Ends { result := .error Breach.noRoots.toError }
  | pool {s : Pool} {result : Except Error Verdict} (nonempty : plan.graph.jobs ≠ [])
      (rooted : plan.graph.roots ≠ []) (reached : Pool.Reachable plan s)
      (at_ : s.stage = .returned result) : plan.Ends { result, history := s.history }

namespace Pool

section
variable {plan : Plan} {pace : Pace} {s t : Pool}

theorem lap_toil_le (sound : plan.graph.Sound) (pace : Pace) (workers : List Nat)
    {state : Pool × Bool} (h : Reachable plan state.1) :
    (lap plan pace workers state).1.toil plan ≤ state.1.toil plan ∧
      ((lap plan pace workers state).2 = true → state.2 = true ∨
        (lap plan pace workers state).1.toil plan < state.1.toil plan) := by
  induction workers generalizing state with
  | nil => exact ⟨Nat.le_refl _, .inl⟩
  | cons worker rest ih =>
    obtain ⟨s, moved⟩ := state
    simp only [lap]
    split
    · rename_i t acts
      have step := step_of_advance acts
      have less : t.toil plan < s.toil plan := step.toil_lt sound h
      have after : (lap plan pace rest (t, true)).1.toil plan ≤ t.toil plan := (ih (.next h step)).1
      exact ⟨by omega, fun _ => .inr (by omega)⟩
    · exact ih h

/-- If nobody moved in a lap, the pool is as before and nobody is able to move. -/
theorem lap_idle (workers : List Nat) {state : Pool × Bool}
    (idle : (lap plan pace workers state).2 = false) :
    lap plan pace workers state = state ∧
      ∀ worker ∈ workers, state.1.advance plan pace worker = none := by
  induction workers generalizing state with
  | nil => exact ⟨rfl, by simp⟩
  | cons worker rest ih =>
    obtain ⟨s, moved⟩ := state
    simp only [lap] at idle ⊢
    split at idle
    · have := (ih idle).1
      simp [this] at idle
    · rename_i stuck
      obtain ⟨same, others⟩ := ih idle
      refine ⟨by simpa only [stuck] using same, ?_⟩
      simpa only [List.mem_cons, forall_eq_or_imp] using ⟨stuck, others⟩

theorem lead_toil (sound : plan.graph.Sound) (h : Reachable plan s) :
    s.lead plan = (s, false) ∨ (s.lead plan).1.toil plan < s.toil plan := by
  unfold lead
  split
  · rename_i t acts
    have step : Step plan s t := .orchestrate acts
    exact .inr (step.toil_lt sound h)
  · exact .inl rfl

theorem round_toil_lt (sound : plan.graph.Sound) (h : Reachable plan s)
    (moved : s.round plan pace = some t) : t.toil plan < s.toil plan := by
  have led := reachable_lead h
  obtain ⟨less, strict⟩ := lap_toil_le sound pace (List.range s.positions.length) led
  unfold round at moved
  split at moved
  · rename_i u ended
    rw [ended] at less strict
    obtain rfl := Option.some.inj moved
    obtain same | spent := lead_toil sound h
    · rw [same] at strict
      exact (strict rfl).resolve_left (by simp)
    · exact Nat.lt_of_le_of_lt less spent
  · rename_i u ended
    have after : Reachable plan (lap plan pace (List.range s.positions.length) (s.lead plan)).1 :=
      reachable_lap _ led
    rw [ended] at less after
    obtain ⟨⟨worker, job⟩, found, rfl⟩ := Option.map_eq_some_iff.mp moved
    have step : Step plan u (u.finishBody plan worker job) := .work (leastPatient_running found) rfl
    have last := Nat.lt_of_lt_of_le (step.toil_lt sound after) less
    obtain same | spent := lead_toil sound h
    · rwa [same] at last
    · exact Nat.lt_trans last spent

theorem hastier_ne_none (pace : Pace) (bodies : List (Nat × JobId)) (best : Nat × JobId) :
    bodies.foldl pace.hastier (some best) ≠ none := by
  induction bodies generalizing best with
  | nil => simp
  | cons first rest ih => exact ih _

/-- When nobody is the least patient, no body is running. -/
theorem not_running (h : s.leastPatient pace = none) {worker : Nat} {job : JobId} :
    s.positions[worker]? ≠ some (.running job) := by
  intro standing
  have member := mem_bodies.mpr standing
  unfold leastPatient at h
  cases bodies : s.bodies with
  | nil => simp [bodies] at member
  | cons first rest =>
    rw [bodies] at h
    exact hastier_ne_none pace rest first h

/-- After a round in which nothing moves, no thread can act. -/
theorem no_step_of_round (idle : s.round plan pace = none) : ¬ Step plan s t := by
  unfold round at idle
  split at idle
  · simp at idle
  · rename_i u ended
    obtain ⟨same, stuck⟩ := lap_idle _ (congrArg Prod.snd ended)
    have still : s.orchestrate plan = none ∧ u = s := by
      rw [same] at ended
      unfold lead at ended
      split at ended
      · simp at ended
      · rename_i none
        exact ⟨none, (congrArg Prod.fst ended).symm⟩
    obtain ⟨none, rfl⟩ := still
    have led : u.lead plan = (u, false) := by simp [lead, none]
    rw [led] at stuck
    have resting : u.leastPatient pace = .none := Option.map_eq_none_iff.mp idle
    have frozen {worker : Nat} {p : Position} (standing : u.positions[worker]? = some p) :
        u.advance plan pace worker = .none :=
      stuck worker (List.mem_range.mpr (List.getElem?_eq_some_iff.mp standing).1)
    intro step
    cases step with
    | orchestrate acts => simp [none] at acts
    | notify standing | notifyNobody standing => simpa [advance, standing] using frozen standing
    | @work _ worker p standing acts =>
      have blocked := frozen standing
      cases p with
      | running job => exact not_running resting standing
      | notifying => simp [act] at acts
      | _ => simp_all [advance]

/-- Rounds go on until no thread can act. -/
theorem round_run (sound : plan.graph.Sound) {n : Nat} (h : Reachable plan s)
    (enough : s.toil plan ≤ n) : (run plan pace n s).round plan pace = none := by
  induction n generalizing s with
  | zero =>
    cases moved : s.round plan pace with
    | none => exact moved
    | some t =>
      have less := round_toil_lt sound h moved
      omega
  | succ n ih =>
    simp only [run]
    split
    · rename_i t moved
      have less := round_toil_lt sound h moved
      exact ih (reachable_round h moved) (by omega)
    · rename_i idle
      exact idle

theorem returned_finalState (sound : plan.graph.Sound) (manned : 1 ≤ plan.workers) (pace : Pace) :
    ∃ result, (finalState plan pace).stage = .returned result := by
  have idle : (finalState plan pace).round plan pace = none :=
    round_run sound .start (toil_start plan)
  by_contra running
  obtain ⟨t, step⟩ := exists_step sound manned (reachable_finalState plan pace)
    fun result at_ => running ⟨result, at_⟩
  exact no_step_of_round idle step

end

end Pool

namespace Scheduler

/-- What a scheduler executes is some run of its plan. -/
theorem ends_execute {plan : Plan} (sound : plan.graph.Sound) (manned : 1 ≤ plan.workers)
    (pace : Pool.Pace) : plan.Ends (execute plan pace) := by
  unfold execute
  split
  · rename_i empty
    exact .idle empty
  · rename_i nonempty
    split
    · rename_i rootless
      exact .rootless nonempty rootless
    · rename_i rooted
      obtain ⟨result, returned⟩ := Pool.returned_finalState sound manned pace
      simp only [returned]
      exact .pool nonempty rooted (Pool.reachable_finalState plan pace) returned

end Scheduler

end Precedence

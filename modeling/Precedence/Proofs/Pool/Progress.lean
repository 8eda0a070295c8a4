import Precedence.Proofs.Pool.Effort
import Precedence.Proofs.Pool.Wakeup
/-!
# Every run returns

No reachable state is stuck before the run has returned, and a run without stray wakeups has at most
`stepBound` steps, a number that depends on the graph and the size of the pool alone. So a run
returns whatever the order in which its threads act, and every worker has left by then
(`every_run_returns`).
-/

namespace Precedence.Pool

/-- That many steps in a row, without a stray wakeup. -/
inductive Steps (plan : Plan) : Nat → Pool → Pool → Prop where
  | none {s : Pool} : Steps plan 0 s s
  | first {n : Nat} {s t u : Pool} (step : Step plan s t) (rest : Steps plan n t u) :
      Steps plan (n + 1) s u

section
variable {plan : Plan} {s t : Pool} {n : Nat}

theorem Steps.reachable (steps : Steps plan n s t) (h : Reachable plan s) : Reachable plan t := by
  induction steps with
  | none => exact h
  | first step _ ih => exact ih (.next h step)

theorem Steps.toil_le (sound : plan.graph.Sound) (h : Reachable plan s)
    (steps : Steps plan n s t) : n + t.toil plan ≤ s.toil plan := by
  induction steps with
  | none => omega
  | first step _ ih =>
    have less := step.toil_lt sound h
    have rest := ih (.next h step)
    omega

theorem Reachable.gone (sound : plan.graph.Sound) (h : Reachable plan s)
    {result : Except Error Verdict} (returned : s.stage = .returned result) :
    ∀ p ∈ s.positions, isGone p = true :=
  ((h.conduct sound).returned returned).2.1

theorem Reachable.returns (sound : plan.graph.Sound) (manned : 1 ≤ plan.workers)
    (h : Reachable plan s) : ∃ n t result, Steps plan n s t ∧ t.stage = .returned result := by
  generalize left : s.toil plan = m
  induction m using Nat.strongRecOn generalizing s with
  | ind m ih =>
    by_cases returned : ∃ result, s.stage = .returned result
    · obtain ⟨result, returned⟩ := returned
      exact ⟨0, s, result, .none, returned⟩
    · obtain ⟨t, step⟩ := exists_step sound manned h fun result at_ => returned ⟨result, at_⟩
      have less : t.toil plan < m := left ▸ step.toil_lt sound h
      obtain ⟨n, u, result, rest, returned⟩ := ih _ less (.next h step) rfl
      exact ⟨n + 1, u, result, .first step rest, returned⟩

/-- A pool never gets stuck: before the run has returned some thread can act, once it has returned
every worker has left, a run without stray wakeups has at most `stepBound` steps, and from every
state it goes on to return. -/
theorem every_run_returns {jobs : List JobId} {edges : List Edge}
    (built : Graph.build jobs edges = .ok plan.graph) (manned : 1 ≤ plan.workers) :
    (∀ s, Reachable plan s → (∀ result, s.stage ≠ .returned result) → ∃ t, Step plan s t) ∧
    (∀ s result, Reachable plan s → s.stage = .returned result →
      ∀ p ∈ s.positions, isGone p = true) ∧
    (∀ n s, Steps plan n (.start plan) s → n ≤ stepBound plan.graph plan.workers) ∧
    (∀ s, Reachable plan s → ∃ n t result, Steps plan n s t ∧ t.stage = .returned result) := by
  have sound := Graph.sound_of_build built
  refine ⟨fun s h running => exists_step sound manned h running,
    fun s result h returned => h.gone sound returned, fun n s steps => ?_,
    fun s h => h.returns sound manned⟩
  have spent := steps.toil_le sound .start
  have budget := toil_start plan
  omega

/-- Two workers run the diamond in at most 113 steps when its second job panics. -/
theorem diamond_returns :
    (∀ s, Reachable (.diamond 2 (.panic "boom")) s → (∀ result, s.stage ≠ .returned result) →
      ∃ t, Step (.diamond 2 (.panic "boom")) s t) ∧
    (∀ n s, Steps (.diamond 2 (.panic "boom")) n (.start (.diamond 2 (.panic "boom"))) s →
      n ≤ 113) := by
  obtain ⟨unstuck, -, bounded, -⟩ := every_run_returns Graph.build_diamond
    (show 1 ≤ (Plan.diamond 2 (.panic "boom")).workers by decide)
  exact ⟨unstuck, bounded⟩

end

end Precedence.Pool

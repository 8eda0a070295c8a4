import Precedence.Proofs.Countdown
import Precedence.Proofs.Pool.Ledger
/-!
# When a job becomes ready

`Readiness` ties the counters to the graph: they stand right for the jobs whose dependents have been
counted down, and the jobs that have become ready are those whose dependencies are all among them,
each once. With the ledger this gives what every interleaving keeps (`Reachable.readiness`): a
report to the counters never fails, every job on its way is a job of the graph, and a job starts at
most once and only after its dependencies are done.
-/

namespace Precedence.Pool

structure Readiness (plan : Plan) (s : Pool) : Prop where
  graph : s.countdown.graph = plan.graph
  counts : s.countdown.Counts s.released
  distinct : (s.readied plan).Nodup
  ready_iff : ∀ v, v ∈ s.readied plan ↔
    v ∈ plan.graph.jobs ∧ ∀ u ∈ plan.graph.dependencies v, u ∈ s.released

section
variable {plan : Plan} {s t : Pool} {worker : Nat} {p q : Position}

theorem readiness_start (sound : plan.graph.Sound) : Readiness plan (.start plan) where
  graph := rfl
  counts := Countdown.counts_start plan.graph
  distinct := by simpa [readied, start, Graph.roots] using sound.jobs_nodup.filter _
  ready_iff v := by
    simp only [readied, released, start, gather_nil, List.append_nil, Graph.roots,
      Graph.indegree, List.mem_filter, decide_eq_true_eq, List.length_eq_zero_iff,
      List.not_mem_nil, imp_false, List.eq_nil_iff_forall_not_mem]

/-- What leaves counters and releases alone keeps the readiness. -/
theorem Readiness.of_same (h : Readiness plan s) (countdown : t.countdown = s.countdown)
    (readied : t.readied plan = s.readied plan) (released : t.released = s.released) :
    Readiness plan t := by
  obtain ⟨graph, counts, distinct, ready_iff⟩ := h
  constructor
  · rw [countdown]; exact graph
  · rw [countdown, released]; exact counts
  · rw [readied]; exact distinct
  · rw [readied, released]; exact ready_iff

/-- The report of a job that has not been reported before succeeds. -/
theorem Readiness.report (h : Readiness plan s) (sound : plan.graph.Sound) {job : JobId}
    (fresh : job ∉ s.released) :
    s.countdown.released job = .ok ((plan.graph.dependents job).filter fun v =>
        (plan.graph.dependencies v).countP (· ∉ s.released ++ [job]) = 0) ∧
      (s.countdown.finish job).Counts (s.released ++ [job]) := by
  have := h.counts.report (h.graph.symm ▸ sound) fresh
  rwa [h.graph] at this

theorem Readiness.deed (sound : plan.graph.Sound) (ledger : Ledger plan s)
    (h : Readiness plan s) (standing : s.positions[worker]? = some p)
    (done : Deed plan s worker p q t) : Readiness plan t := by
  cases done with
  | @releases job ready released =>
    have fresh := ledger.not_released h.distinct standing
    obtain ⟨succeeds, counts⟩ := h.report sound fresh
    obtain rfl := Except.ok.inj (released.symm.trans succeeds)
    refine ⟨h.graph, by simpa [Pool.released] using counts, ?_, fun v => ?_⟩
    · simp only [Pool.readied, place_history, note_history, gather_cons, Event.readyJobs,
        ← List.append_assoc]
      refine List.Nodup.append h.distinct ((sound.nodup_dependents job).filter _) ?_
      intro v before now
      have dependency := Graph.mem_dependents.mp (List.mem_filter.mp now).1
      exact fresh (((h.ready_iff v).mp before).2 job dependency)
    · have before := h.ready_iff v
      simp only [Pool.readied, Pool.released, List.mem_append] at before
      simp only [Pool.readied, Pool.released, place_history, note_history, gather_cons,
        Event.readyJobs, Event.releasedJobs, ← List.append_assoc, List.mem_append, before,
        List.mem_filter, decide_eq_true_eq, List.countP_eq_zero, Decidable.not_not,
        List.mem_singleton]
      constructor
      · rintro (⟨listed, all⟩ | ⟨dependent, all⟩)
        · exact ⟨listed, fun u hu => .inl (all u hu)⟩
        · exact ⟨sound.mem_jobs_of_dependent dependent, all⟩
      · rintro ⟨listed, all⟩
        by_cases depends : job ∈ plan.graph.dependencies v
        · exact .inr ⟨Graph.mem_dependents.mpr depends, all⟩
        · refine .inl ⟨listed, fun u hu => (all u hu).resolve_right ?_⟩
          rintro rfl
          exact depends hu
  | miscounts failed =>
    have succeeds := (h.report sound (ledger.not_released h.distinct standing)).1
    simp [failed] at succeeds
  | _ =>
    exact h.of_same (by simp) (by simp [Pool.readied, gather_ite, Aftermath.parting])
      (by simp [Pool.released, gather_ite, Aftermath.parting])

theorem Readiness.chore (h : Readiness plan s) (chore : Chore plan s t) : Readiness plan t := by
  refine h.of_same ?_ chore.readied chore.released
  rcases chore.board with same | closed
  · rw [same]
  · rw [closed]

/-- Every job that has become ready is a job of the graph. -/
theorem Readiness.listed (h : Readiness plan s) {job : JobId} (member : job ∈ s.readied plan) :
    job ∈ plan.graph.jobs :=
  ((h.ready_iff job).mp member).1

/-- Everything that precedes a ready job has succeeded. -/
theorem Readiness.preceding_completed (h : Readiness plan s) (ledger : Ledger plan s)
    {u v : JobId} (member : v ∈ s.readied plan) (precedes : plan.graph.Precedes u v) :
    u ∈ s.completed := by
  induction precedes with
  | single dependency => exact ledger.released_subset (((h.ready_iff _).mp member).2 u dependency)
  | @tail w v _ dependency ih =>
    have completed := ledger.released_subset (((h.ready_iff v).mp member).2 w dependency)
    exact ih (ledger.started_readied (ledger.completed_subset completed))

theorem Readiness.started_listed (h : Readiness plan s) (ledger : Ledger plan s) :
    s.started ⊆ plan.graph.jobs := fun _ member =>
  h.listed (ledger.started_readied member)

theorem Readiness.completed_listed (h : Readiness plan s) (ledger : Ledger plan s) :
    s.completed ⊆ plan.graph.jobs := fun _ member =>
  h.started_listed ledger (ledger.completed_subset member)

theorem Readiness.completed_length_le (h : Readiness plan s) (ledger : Ledger plan s) :
    s.completed.length ≤ plan.graph.jobs.length :=
  List.Nodup.length_le_of_subset (ledger.nodup_completed h.distinct) (h.completed_listed ledger)

theorem ledger_and_readiness (sound : plan.graph.Sound) (h : Reachable plan s) :
    Ledger plan s ∧ Readiness plan s := by
  refine Reachable.invariant (I := fun s => Ledger plan s ∧ Readiness plan s)
    ⟨ledger_start plan, readiness_start sound⟩ ?_ ?_ h
  · rintro s t worker p q _ ⟨ledger, ready⟩ standing done
    refine ⟨done.ledger standing ?_ ledger, ready.deed sound ledger standing done⟩
    rintro job rfl
    have held : job ∈ s.held := mem_hands standing (by simp)
    exact ready.listed (ledger.held_readied held)
  · rintro s t reached ⟨ledger, ready⟩ chore
    exact ⟨ledger.chore (crew reached) chore, ready.chore chore⟩

theorem Reachable.ledger (sound : plan.graph.Sound) (h : Reachable plan s) : Ledger plan s :=
  (ledger_and_readiness sound h).1

theorem Reachable.readiness (sound : plan.graph.Sound) (h : Reachable plan s) :
    Readiness plan s :=
  (ledger_and_readiness sound h).2

theorem Deed.ordered (ledger : Ledger plan s) (ready : Readiness plan s)
    (standing : s.positions[worker]? = some p) (done : Deed plan s worker p q t)
    (h : plan.graph.Ordered s.completed) : plan.graph.Ordered t.completed := by
  cases done with
  | @records job =>
    have busy : job ∈ s.busy := mem_hands standing (by simp)
    have readied := ledger.started_readied (ledger.busy_subset busy)
    exact h.concat fun u dependency => ready.preceding_completed ledger readied (.single dependency)
  | _ => simpa using h

/-- A job is recorded as succeeded after its dependencies. -/
theorem Reachable.ordered (sound : plan.graph.Sound) (h : Reachable plan s) :
    plan.graph.Ordered s.completed := by
  refine Reachable.invariant (I := fun s => plan.graph.Ordered s.completed)
    (Graph.ordered_nil _) ?_ ?_ h
  · intro s t worker p q reached ih standing done
    exact done.ordered (reached.ledger sound) (reached.readiness sound) standing ih
  · intro s t _ ih chore
    rw [chore.lists.2]
    exact ih

end

end Precedence.Pool

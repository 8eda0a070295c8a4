import Precedence.Proofs.Graph
import Precedence.Countdown
/-!
# What a report does to the counters

`Countdown.Counts c done` says that every counter stands at the number of dependencies that are not
in `done`. A new countdown counts with nothing done (`counts_start`), and reporting a job that is
not done yet counts on: it never fails, and it releases the dependents that have no other
dependency left (`Counts.report`).
-/

namespace Precedence.Countdown

theorem keys_setCount (counts : List (JobId × Nat)) (job : JobId) (n : Nat) :
    (setCount counts job n).map (·.1) = counts.map (·.1) := by
  simp only [setCount, List.map_map]
  refine List.map_congr_left fun entry _ => ?_
  by_cases same : entry.1 = job <;> simp [same]

theorem lookup_setCount (counts : List (JobId × Nat)) (job other : JobId) (n : Nat) :
    (setCount counts job n).lookup other =
      if other = job then (counts.lookup other).map fun _ => n else counts.lookup other := by
  induction counts with
  | nil => simp [setCount]
  | cons entry rest ih =>
    obtain ⟨key, m⟩ := entry
    simp only [setCount, List.map_cons] at ih ⊢
    by_cases found : other = key
    · subst found
      by_cases asked : other = job <;> simp [asked]
    · have miss : (other == key) = false := beq_eq_false_iff_ne.mpr found
      by_cases set : key = job
      · subst set
        simpa [List.lookup_cons, miss, found] using ih
      · simpa [List.lookup_cons, miss, set] using ih

theorem keys_countDown (job : JobId) (dependents : List JobId) (counts : List (JobId × Nat)) :
    (countDown job counts dependents).counts.map (·.1) = counts.map (·.1) := by
  induction dependents generalizing counts with
  | nil => rfl
  | cons dependent rest ih =>
    simp only [countDown]
    split
    · rfl
    · rfl
    · exact (ih _).trans (keys_setCount ..)

/-- Counting down distinct dependents whose counters are not at zero. -/
theorem countDown_of_pos (job : JobId) {dependents : List JobId} (distinct : dependents.Nodup)
    {counts : List (JobId × Nat)} {left : JobId → Nat}
    (pos : ∀ v ∈ dependents, counts.lookup v = some (left v + 1)) :
    (countDown job counts dependents).released = .ok (dependents.filter (left · = 0)) ∧
      ∀ v, (countDown job counts dependents).counts.lookup v =
        if v ∈ dependents then some (left v) else counts.lookup v := by
  induction dependents generalizing counts with
  | nil => simp [countDown]
  | cons dependent rest ih =>
    obtain ⟨absent, distinct⟩ := List.nodup_cons.mp distinct
    have here : counts.lookup dependent = some (left dependent + 1) := pos _ List.mem_cons_self
    have later : ∀ v ∈ rest, (setCount counts dependent (left dependent)).lookup v =
        some (left v + 1) := by
      intro v member
      have differ : v ≠ dependent := fun same => absent (same ▸ member)
      rw [lookup_setCount, if_neg differ]
      exact pos v (List.mem_cons_of_mem _ member)
    obtain ⟨released, counted⟩ := ih distinct later
    simp only [countDown, here]
    constructor
    · rw [released]
      by_cases zero : left dependent = 0 <;> simp [Except.map, zero]
    · intro v
      rw [counted v, lookup_setCount]
      by_cases same : v = dependent
      · subst same; simp [absent, here]
      · simp [same]

/-- Every counter stands at the number of dependencies that are not done. -/
structure Counts (c : Countdown) (done : List JobId) : Prop where
  keys : c.counts.map (·.1) = c.graph.jobs
  pending : ∀ v ∈ c.graph.jobs,
    c.pending v = some ((c.graph.dependencies v).countP (· ∉ done))

theorem lookup_map_self {f : JobId → Nat} {jobs : List JobId} {v : JobId} (h : v ∈ jobs) :
    (jobs.map fun job => (job, f job)).lookup v = some (f v) := by
  induction jobs with
  | nil => simp at h
  | cons job rest ih =>
    by_cases same : v = job
    · simp [same]
    · have inside : v ∈ rest := (List.mem_cons.mp h).resolve_left same
      simpa [List.lookup_cons, beq_eq_false_iff_ne.mpr same] using ih inside

theorem counts_start (graph : Graph) : (start graph).Counts [] := by
  refine ⟨by simp [start, Function.comp_def], fun v member => ?_⟩
  refine (lookup_map_self (f := graph.indegree) member).trans ?_
  simp [Graph.indegree, start]

/-- A job that is not done is one dependency more than are left once it is done. -/
theorem countP_not_mem_cons {dependencies done : List JobId} {job : JobId}
    (distinct : dependencies.Nodup) (member : job ∈ dependencies) (open_ : job ∉ done) :
    dependencies.countP (· ∉ done) = dependencies.countP (· ∉ done ++ [job]) + 1 := by
  induction dependencies with
  | nil => simp at member
  | cons first rest ih =>
    obtain ⟨absent, distinct⟩ := List.nodup_cons.mp distinct
    rcases List.mem_cons.mp member with rfl | inside
    · have apart : rest.countP (· ∉ done ++ [job]) = rest.countP (· ∉ done) := by
        refine List.countP_congr fun u hu => ?_
        have differ : u ≠ job := fun same => absent (same ▸ hu)
        simp [differ]
      rw [List.countP_cons_of_pos (by simpa using open_), List.countP_cons_of_neg (by simp), apart]
    · have differ : first ≠ job := fun same => absent (same ▸ inside)
      have := ih distinct inside
      simp only [List.countP_cons, List.mem_append, List.mem_singleton, differ, or_false] at this ⊢
      omega

theorem countP_not_mem_of_not_mem {dependencies done : List JobId} {job : JobId}
    (absent : job ∉ dependencies) :
    dependencies.countP (· ∉ done ++ [job]) = dependencies.countP (· ∉ done) := by
  refine List.countP_congr fun u hu => ?_
  have differ : u ≠ job := fun same => absent (same ▸ hu)
  simp [differ]

/-- Reporting a job that is not done yet releases the dependents that have nothing else to wait
for, and the counters stand right for the job done. -/
theorem Counts.report {c : Countdown} {done : List JobId} {job : JobId} (counts : c.Counts done)
    (sound : c.graph.Sound) (open_ : job ∉ done) :
    c.released job = .ok ((c.graph.dependents job).filter fun v =>
        (c.graph.dependencies v).countP (· ∉ done ++ [job]) = 0) ∧
      (c.finish job).Counts (done ++ [job]) := by
  have pos : ∀ v ∈ c.graph.dependents job, c.counts.lookup v =
      some ((c.graph.dependencies v).countP (· ∉ done ++ [job]) + 1) := by
    intro v dependent
    rw [← countP_not_mem_cons (sound.nodup_dependencies v) (Graph.mem_dependents.mp dependent)
      open_]
    exact counts.pending v (sound.mem_jobs_of_dependent dependent)
  obtain ⟨released, lookup⟩ := countDown_of_pos job (sound.nodup_dependents job) pos
  refine ⟨released, (keys_countDown ..).trans counts.keys, fun v listed => ?_⟩
  show (countDown job c.counts (c.graph.dependents job)).counts.lookup v = _
  rw [lookup v]
  by_cases dependent : v ∈ c.graph.dependents job
  · rw [if_pos dependent]; rfl
  · rw [if_neg dependent]
    have absent : job ∉ c.graph.dependencies v := fun h => dependent (Graph.mem_dependents.mpr h)
    exact (counts.pending v listed).trans
      (congrArg some (countP_not_mem_of_not_mem absent).symm)

theorem lookup_of_mem {counts : List (JobId × Nat)} (distinct : (counts.map (·.1)).Nodup)
    {v : JobId} {n : Nat} (entry : (v, n) ∈ counts) : counts.lookup v = some n := by
  obtain ⟨before, after, rfl⟩ := List.append_of_mem entry
  refine List.lookup_eq_some_iff.mpr ⟨before, after, rfl, fun other member => ?_⟩
  rw [List.map_append, List.map_cons] at distinct
  have apart := List.disjoint_of_nodup_append distinct
  rw [bne_iff_ne]
  intro same
  exact apart (List.mem_map.mpr ⟨other, member, same.symm⟩) List.mem_cons_self

/-- Nothing is outstanding once the dependencies of every job are done. -/
theorem Counts.outstanding_eq_zero {c : Countdown} {done : List JobId} (counts : c.Counts done)
    (sound : c.graph.Sound) (all : ∀ v ∈ c.graph.jobs, ∀ u ∈ c.graph.dependencies v, u ∈ done) :
    c.outstanding = 0 := by
  refine List.sum_eq_zero_iff_forall_eq_nat.mpr fun n member => ?_
  obtain ⟨⟨v, m⟩, entry, rfl⟩ := List.mem_map.mp member
  have distinct : (c.counts.map (·.1)).Nodup := counts.keys ▸ sound.jobs_nodup
  have listed : v ∈ c.graph.jobs := counts.keys ▸ List.mem_map.mpr ⟨_, entry, rfl⟩
  have found : c.counts.lookup v = some m := lookup_of_mem distinct entry
  have none : (c.graph.dependencies v).countP (· ∉ done) = 0 := by
    simpa using all v listed
  have counted := (counts.pending v listed).symm.trans found
  rw [none] at counted
  exact (Option.some.inj counted).symm

end Precedence.Countdown

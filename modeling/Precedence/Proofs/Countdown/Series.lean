import Mathlib.Algebra.BigOperators.Group.List.Basic
import Mathlib.Algebra.GroupWithZero.Nat
import Precedence.Proofs.Countdown
/-!
# A series of reports

A series reports several jobs as finished, one after the other. If the jobs are distinct, no report
of the series fails, and where the counters stand depends on which jobs were reported and not on
their order (`finishAll_of_perm`). A job is released with the last of its dependencies, so every
order releases the same jobs, each once (`Counts.mem_releasedAll`, `Counts.nodup_releasedAll`). What
is outstanding is the number of edges from a job that was not reported (`Counts.outstanding_eq`).
-/

namespace Precedence

/-- Every edge is counted with its target, as each target is listed once. -/
theorem sum_countP_dependenciesIn {jobs : List JobId} (distinct : jobs.Nodup) {edges : List Edge}
    (listed : ∀ edge ∈ edges, edge.target ∈ jobs) (P : JobId → Bool) :
    (jobs.map fun v => (dependenciesIn edges v).countP P).sum =
      edges.countP fun edge => P edge.source := by
  induction edges with
  | nil => simp [dependenciesIn]
  | cons edge rest ih =>
    have later := ih fun e member => listed e (List.mem_cons_of_mem edge member)
    have once : jobs.count edge.target = 1 :=
      List.count_eq_one_of_mem distinct (listed edge List.mem_cons_self)
    have split : ∀ v, (dependenciesIn (edge :: rest) v).countP P = (dependenciesIn rest v).countP P +
        if edge.target = v ∧ P edge.source then 1 else 0 := by
      intro v
      by_cases here : edge.target = v
      · simp [dependenciesIn, here, List.countP_cons]
      · simp [dependenciesIn, here]
    simp only [split, List.sum_map_add, later, List.countP_cons]
    rw [List.sum_map_eq_nsmul_single edge.target _ fun v differ _ => by simp [differ.symm], once]
    simp

namespace Countdown

/-- The counters after all of the jobs were reported as finished, in order. -/
def finishAll (c : Countdown) (jobs : List JobId) : Countdown := jobs.foldl finish c

/-- The jobs that a series of reports releases, in order. A report that fails releases none. -/
def releasedAll (c : Countdown) : List JobId → List JobId
  | [] => []
  | job :: rest => (c.released job).toOption.getD [] ++ (c.finish job).releasedAll rest

section
variable {c : Countdown} {done jobs : List JobId}

@[simp] theorem finishAll_graph (c : Countdown) (jobs : List JobId) :
    (c.finishAll jobs).graph = c.graph := by
  induction jobs generalizing c with
  | nil => rfl
  | cons job rest ih => exact ih (c.finish job)

@[simp] theorem start_graph (graph : Graph) : (start graph).graph = graph := rfl

theorem not_mem_of_nodup_append {job : JobId} (distinct : (done ++ job :: jobs).Nodup) :
    job ∉ done :=
  fun before => (List.nodup_append'.mp distinct).2.2 before List.mem_cons_self

theorem releasedAll_append (c : Countdown) (jobs others : List JobId) :
    c.releasedAll (jobs ++ others) = c.releasedAll jobs ++ (c.finishAll jobs).releasedAll others := by
  induction jobs generalizing c with
  | nil => rfl
  | cons job rest ih =>
    rw [List.cons_append, releasedAll, ih, releasedAll, List.append_assoc]
    rfl

/-- Reports of distinct jobs that are not done yet count on. -/
theorem Counts.finishAll (counts : c.Counts done) (sound : c.graph.Sound)
    (distinct : (done ++ jobs).Nodup) : (c.finishAll jobs).Counts (done ++ jobs) := by
  induction jobs generalizing c done with
  | nil => simpa [Countdown.finishAll] using counts
  | cons job rest ih =>
    have open_ := not_mem_of_nodup_append distinct
    rw [List.append_cons] at distinct ⊢
    exact ih (counts.report sound open_).2 sound distinct

/-- A report releases the dependents whose other dependencies are done, in their order. -/
theorem Counts.released_eq (counts : c.Counts done) (sound : c.graph.Sound) {job : JobId}
    (open_ : job ∉ done) : c.released job = .ok ((c.graph.dependents job).filter fun v =>
      ∀ u ∈ c.graph.dependencies v, u ≠ job → u ∈ done) := by
  rw [(counts.report sound open_).1]
  congr 1
  refine List.filter_congr fun v _ => ?_
  simp only [List.countP_eq_zero, decide_eq_decide]
  grind

/-- Where the counters stand follows from the jobs that are done. -/
theorem Counts.counts_eq (counts : c.Counts done) (sound : c.graph.Sound) :
    c.counts = c.graph.jobs.map fun v => (v, (c.graph.dependencies v).countP (· ∉ done)) := by
  have distinct : (c.counts.map (·.1)).Nodup := counts.keys ▸ sound.jobs_nodup
  have entries : ∀ entry ∈ c.counts,
      (entry.1, (c.graph.dependencies entry.1).countP (· ∉ done)) = entry := by
    rintro ⟨v, n⟩ member
    have listed : v ∈ c.graph.jobs := counts.keys ▸ List.mem_map.mpr ⟨_, member, rfl⟩
    have stands := (counts.pending v listed).symm.trans (lookup_of_mem distinct member)
    exact congrArg (v, ·) (Option.some.inj stands)
  rw [← counts.keys, List.map_map]
  exact ((List.map_congr_left entries).trans (List.map_id' _)).symm

/-- Two countdowns of one graph agree if the same jobs are done. -/
theorem Counts.eq_of_mem_iff {other : Countdown} {done' : List JobId} (counts : c.Counts done)
    (counts' : other.Counts done') (sound : c.graph.Sound) (graph : other.graph = c.graph)
    (same : ∀ u, u ∈ done' ↔ u ∈ done) : other = c := by
  have stands := counts.counts_eq sound
  have stands' := counts'.counts_eq (graph ▸ sound)
  simp only [graph, same, ← stands] at stands'
  cases c
  cases other
  simp_all

/-- As many dependencies are outstanding as edges lead from a job that is not done. -/
theorem Counts.outstanding_eq (counts : c.Counts done) (sound : c.graph.Sound) :
    c.outstanding = c.graph.edges.countP fun edge => edge.source ∉ done := by
  rw [outstanding, counts.counts_eq sound, List.map_map]
  exact sum_countP_dependenciesIn sound.jobs_nodup sound.target_mem fun u => u ∉ done

/-- A series releases the jobs of which it reports the last dependency. -/
theorem Counts.mem_releasedAll (counts : c.Counts done) (sound : c.graph.Sound)
    (distinct : (done ++ jobs).Nodup) {v : JobId} : v ∈ c.releasedAll jobs ↔
      (∃ u ∈ c.graph.dependencies v, u ∉ done) ∧ ∀ u ∈ c.graph.dependencies v, u ∈ done ++ jobs := by
  induction jobs generalizing c done with
  | nil => grind [releasedAll]
  | cons job rest ih =>
    have open_ := not_mem_of_nodup_append distinct
    rw [List.append_cons] at distinct ⊢
    have later : v ∈ (c.finish job).releasedAll rest ↔
        (∃ u ∈ c.graph.dependencies v, u ∉ done ++ [job]) ∧
          ∀ u ∈ c.graph.dependencies v, u ∈ done ++ [job] ++ rest :=
      ih (counts.report sound open_).2 sound distinct
    have now : v ∈ (c.released job).toOption.getD [] ↔ job ∈ c.graph.dependencies v ∧
        ∀ u ∈ c.graph.dependencies v, u ≠ job → u ∈ done := by
      simp [counts.released_eq sound open_, Except.toOption, Graph.mem_dependents]
    rw [releasedAll, List.mem_append, now, later]
    grind

/-- No job is released twice. -/
theorem Counts.nodup_releasedAll (counts : c.Counts done) (sound : c.graph.Sound)
    (distinct : (done ++ jobs).Nodup) : (c.releasedAll jobs).Nodup := by
  induction jobs generalizing c done with
  | nil => exact List.nodup_nil
  | cons job rest ih =>
    have open_ := not_mem_of_nodup_append distinct
    have counts' := (counts.report sound open_).2
    rw [List.append_cons] at distinct
    rw [releasedAll, counts.released_eq sound open_]
    refine List.Nodup.append ((sound.nodup_dependents job).filter _) (ih counts' sound distinct) ?_
    intro v now later
    -- what is released later waits for a job that is still open
    obtain ⟨⟨u, dependency, waits⟩, -⟩ := (counts'.mem_releasedAll sound distinct).mp later
    have others := of_decide_eq_true (List.mem_filter.mp now).2 u dependency
    grind

end

/-! ## From the start -/

section
variable {graph : Graph} {jobs others : List JobId} (sound : graph.Sound) (distinct : jobs.Nodup)
include sound distinct

theorem counts_finishAll : ((start graph).finishAll jobs).Counts jobs :=
  (counts_start graph).finishAll sound (List.nil_append jobs ▸ distinct)

/-- The order of the reports does not matter for the counters. -/
theorem finishAll_of_perm (perm : others.Perm jobs) :
    (start graph).finishAll others = (start graph).finishAll jobs :=
  (counts_finishAll sound distinct).eq_of_mem_iff
    (counts_finishAll sound (perm.nodup_iff.mpr distinct)) (by simpa using sound) (by simp)
    fun _ => perm.mem_iff

theorem released_finishAll {job : JobId} (open_ : job ∉ jobs) :
    ((start graph).finishAll jobs).released job = .ok ((graph.dependents job).filter fun v =>
      ∀ u ∈ graph.dependencies v, u ≠ job → u ∈ jobs) := by
  simpa using (counts_finishAll sound distinct).released_eq (by simpa using sound) open_

theorem pending_finishAll (v : JobId) : ((start graph).finishAll jobs).pending v =
    if v ∈ graph.jobs then some ((graph.dependencies v).countP (· ∉ jobs)) else none := by
  have counts := counts_finishAll sound distinct
  split
  · rename_i listed
    simpa using counts.pending v (by simpa using listed)
  · rename_i unlisted
    refine List.lookup_eq_none_iff.mpr fun entry member => ?_
    have key : entry.1 ∈ graph.jobs := by
      simpa [counts.keys] using List.mem_map_of_mem (f := (·.1)) member
    rw [bne_iff_ne]
    rintro rfl
    exact unlisted key

theorem outstanding_finishAll : ((start graph).finishAll jobs).outstanding =
    graph.edges.countP fun edge => edge.source ∉ jobs := by
  simpa using (counts_finishAll sound distinct).outstanding_eq (by simpa using sound)

/-- A job is released by a series that reports all of its dependencies, unless it has none. -/
theorem mem_releasedAll_start {v : JobId} : v ∈ (start graph).releasedAll jobs ↔
    graph.dependencies v ≠ [] ∧ ∀ u ∈ graph.dependencies v, u ∈ jobs := by
  have released := (counts_start graph).mem_releasedAll sound (v := v)
    (List.nil_append jobs ▸ distinct)
  simpa [List.eq_nil_iff_forall_not_mem, start] using released

theorem nodup_releasedAll_start : ((start graph).releasedAll jobs).Nodup :=
  (counts_start graph).nodup_releasedAll sound (by simpa using distinct)

/-- The order of the reports does not matter for which jobs are released. -/
theorem releasedAll_of_perm (perm : others.Perm jobs) :
    ((start graph).releasedAll others).Perm ((start graph).releasedAll jobs) := by
  have distinct' := perm.nodup_iff.mpr distinct
  refine (List.perm_ext_iff_of_nodup (nodup_releasedAll_start sound distinct')
    (nodup_releasedAll_start sound distinct)).mpr fun v => ?_
  rw [mem_releasedAll_start sound distinct', mem_releasedAll_start sound distinct]
  simp only [perm.mem_iff]

/-- Once all jobs are reported, those are released that are no roots, each once. -/
theorem releasedAll_of_all (all : graph.jobs ⊆ jobs) :
    ((start graph).releasedAll jobs).Perm (graph.jobs.filter (· ∉ graph.roots)) := by
  refine (List.perm_ext_iff_of_nodup (nodup_releasedAll_start sound distinct)
    (sound.jobs_nodup.filter _)).mpr fun v => ?_
  rw [mem_releasedAll_start sound distinct]
  simp only [Graph.roots, Graph.indegree, List.mem_filter, decide_eq_true_eq, not_and,
    List.length_eq_zero_iff]
  constructor
  · rintro ⟨depends, -⟩
    obtain ⟨u, dependency⟩ := List.exists_mem_of_ne_nil _ depends
    exact ⟨sound.mem_jobs_of_dependent (Graph.mem_dependents.mpr dependency), fun _ => depends⟩
  · rintro ⟨listed, depends⟩
    exact ⟨depends listed, fun u dependency => all (sound.mem_jobs_of_dependency dependency)⟩

end

/-- Distinct jobs can be reported in any order, whether they are jobs of the graph or not. Every
report succeeds and releases the dependents whose other dependencies were all reported before it,
and at any time the counter of a job stands at the number of its dependencies that were not
reported. So the counters and the released jobs depend on what was reported and not on the order;
with all jobs reported every job that is no root was released, once, and nothing is outstanding. -/
theorem reports_succeed_in_any_order {jobs : List JobId} {edges : List Edge} {graph : Graph}
    (built : Graph.build jobs edges = .ok graph) {reports : List JobId} (distinct : reports.Nodup) :
    (∀ before job after, reports = before ++ job :: after →
      ((start graph).finishAll before).released job = .ok ((graph.dependents job).filter fun v =>
        ∀ u ∈ graph.dependencies v, u ≠ job → u ∈ before)) ∧
    (∀ before after, reports = before ++ after →
      (∀ v, ((start graph).finishAll before).pending v =
        if v ∈ jobs then some ((graph.dependencies v).countP (· ∉ before)) else none) ∧
      ((start graph).finishAll before).outstanding = graph.edges.countP (·.source ∉ before)) ∧
    (∀ others, others.Perm reports →
      (start graph).finishAll others = (start graph).finishAll reports ∧
      ((start graph).releasedAll others).Perm ((start graph).releasedAll reports)) ∧
    (start graph).outstanding = graph.edges.length ∧
    (jobs ⊆ reports →
      ((start graph).releasedAll reports).Perm (jobs.filter (· ∉ graph.roots)) ∧
      ((start graph).finishAll reports).outstanding = 0) := by
  have sound := Graph.sound_of_build built
  obtain rfl := Graph.jobs_of_build built
  refine ⟨?_, ?_, fun others perm => ⟨finishAll_of_perm sound distinct perm,
    releasedAll_of_perm sound distinct perm⟩, ?_,
    fun all => ⟨releasedAll_of_all sound distinct all, ?_⟩⟩
  · rintro before job after rfl
    have once := (List.nodup_append'.mp distinct).1
    exact released_finishAll sound once (not_mem_of_nodup_append distinct)
  · rintro before after rfl
    have once := (List.nodup_append'.mp distinct).1
    exact ⟨pending_finishAll sound once, outstanding_finishAll sound once⟩
  · simpa [finishAll] using outstanding_finishAll sound List.nodup_nil
  · rw [outstanding_finishAll sound distinct, List.countP_eq_zero]
    intro edge member
    simpa using all (sound.source_mem edge member)

/-- The jobs of a diamond are reported from the last one back, and an unknown one among them. -/
theorem diamond_reported_backwards :
    let reports : List JobId := [⟨"4"⟩, ⟨"3"⟩, ⟨"5"⟩, ⟨"2"⟩, ⟨"1"⟩]
    reports.Nodup ∧ (start .diamond).releasedAll reports = [⟨"4"⟩, ⟨"2"⟩, ⟨"3"⟩] ∧
      ((start .diamond).finishAll reports).outstanding = 0 ∧
      (start .diamond).finishAll reports = (start .diamond).finishAll reports.reverse := by
  have distinct : [⟨"4"⟩, ⟨"3"⟩, ⟨"5"⟩, ⟨"2"⟩, (⟨"1"⟩ : JobId)].Nodup := by decide
  obtain ⟨-, -, alike, -, all⟩ := reports_succeed_in_any_order Graph.build_diamond distinct
  exact ⟨distinct, by rfl, (all (by decide)).2, (alike _ (List.reverse_perm _)).1.symm⟩

end Countdown

end Precedence

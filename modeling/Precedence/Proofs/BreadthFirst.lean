import Mathlib.Data.List.Induction
import Mathlib.Data.List.Perm.Subperm
import Precedence.Proofs.Countdown.Series
/-!
# The breadth-first order of a graph

A queue that is seeded with the roots, and to which every report appends what it releases, has held
`readyAfter done` once the jobs of `done` were reported. If these are the jobs that came out of the
queue, the queue has only grown (`readyAfter_prefix`), and it does not run dry before all jobs came
out (`jobs_subset_of_readyAfter_subset`). So there is one order in which the jobs come out, and
`BreadthFirst` says which: the roots come first, and other jobs come in the order of their last
dependencies (`breadthFirst_iff_eq`).
-/

namespace Precedence.Graph

/-- The jobs that are ready once those of `done` were reported, in the order in which they become
ready. -/
def readyAfter (graph : Graph) (done : List JobId) : List JobId :=
  graph.roots ++ (Countdown.start graph).releasedAll done

section
variable {graph : Graph} {done more order : List JobId} {job u v w d e : JobId}

theorem readyAfter_nil (graph : Graph) : graph.readyAfter [] = graph.roots := List.append_nil _

/-- Another report adds to what is ready. -/
theorem readyAfter_prefix (graph : Graph) (h : done <+: more) :
    graph.readyAfter done <+: graph.readyAfter more := by
  obtain ⟨rest, rfl⟩ := h
  rw [readyAfter, readyAfter, Countdown.releasedAll_append, ← List.append_assoc]
  exact List.prefix_append _ _

theorem mem_roots : v ∈ graph.roots ↔ v ∈ graph.jobs ∧ graph.dependencies v = [] := by
  simp [roots, indegree]

section
variable (sound : graph.Sound)
include sound

theorem mem_readyAfter (once : done.Nodup) :
    v ∈ graph.readyAfter done ↔ v ∈ graph.jobs ∧ ∀ u ∈ graph.dependencies v, u ∈ done := by
  rw [readyAfter, List.mem_append, mem_roots, Countdown.mem_releasedAll_start sound once]
  constructor
  · rintro (⟨listed, independent⟩ | ⟨depends, all⟩)
    · exact ⟨listed, by simp [independent]⟩
    · obtain ⟨u, dependency⟩ := List.exists_mem_of_ne_nil _ depends
      exact ⟨sound.mem_jobs_of_dependent (mem_dependents.mpr dependency), all⟩
  · rintro ⟨listed, all⟩
    by_cases independent : graph.dependencies v = []
    · exact .inl ⟨listed, independent⟩
    · exact .inr ⟨independent, all⟩

theorem nodup_readyAfter (once : done.Nodup) : (graph.readyAfter done).Nodup := by
  refine List.nodup_append'.mpr
    ⟨sound.jobs_nodup.filter _, Countdown.nodup_releasedAll_start sound once, ?_⟩
  intro v root released
  exact ((Countdown.mem_releasedAll_start sound once).mp released).1 (mem_roots.mp root).2

/-- The report of a job releases the dependents whose other dependencies were reported before. -/
theorem releasedAll_concat (once : (done ++ [job]).Nodup) :
    (Countdown.start graph).releasedAll (done ++ [job]) =
      (Countdown.start graph).releasedAll done ++ (graph.dependents job).filter fun v =>
        ∀ u ∈ graph.dependencies v, u ≠ job → u ∈ done := by
  have released := Countdown.released_finishAll sound (List.nodup_append'.mp once).1
    (Countdown.not_mem_of_nodup_append once)
  rw [Countdown.releasedAll_append]
  simp [Countdown.releasedAll, released, Except.toOption]

theorem readyAfter_concat (once : (done ++ [job]).Nodup) :
    graph.readyAfter (done ++ [job]) =
      graph.readyAfter done ++ (graph.dependents job).filter fun v =>
        ∀ u ∈ graph.dependencies v, u ≠ job → u ∈ done := by
  rw [readyAfter, releasedAll_concat sound once, ← List.append_assoc]
  rfl

/-- Only when all jobs are done, no job is ready that is not. -/
theorem jobs_subset_of_readyAfter_subset (once : done.Nodup)
    (h : graph.readyAfter done ⊆ done) : graph.jobs ⊆ done := by
  intro v listed
  refine sound.induction (P := fun v => v ∈ graph.jobs → v ∈ done) (fun v earlier listed => ?_) v
    listed
  refine h ((mem_readyAfter sound once).mpr ⟨listed, fun u dependency => ?_⟩)
  exact earlier u dependency (sound.mem_jobs_of_dependency dependency)

end

/-! ## The order in which jobs come out of the queue -/

/-- The jobs of the first `n` generations, in the order in which they come out of the queue: the
roots, then the jobs that these release, and so on. -/
def generations (graph : Graph) : Nat → List JobId
  | 0 => []
  | n + 1 => graph.readyAfter (graph.generations n)

theorem generations_prefix (graph : Graph) (n : Nat) :
    graph.generations n <+: graph.generations (n + 1) := by
  induction n with
  | zero => exact List.nil_prefix
  | succ n ih => exact graph.readyAfter_prefix ih

/-- An order in which jobs come out of the queue begins with each generation in turn. -/
theorem generations_prefix_of_eq (full : graph.readyAfter order = order) (n : Nat) :
    graph.generations n <+: order := by
  induction n with
  | zero => exact List.nil_prefix
  | succ n ih => exact full ▸ graph.readyAfter_prefix ih

section
variable (sound : graph.Sound)
include sound

theorem nodup_generations (n : Nat) : (graph.generations n).Nodup := by
  induction n with
  | zero => exact List.nodup_nil
  | succ n ih => exact nodup_readyAfter sound ih

theorem generations_subset (n : Nat) : graph.generations n ⊆ graph.jobs := by
  cases n with
  | zero => exact List.nil_subset _
  | succ n => exact fun v ready => ((mem_readyAfter sound (nodup_generations sound n)).mp ready).1

/-- Every generation has a job, until all jobs came out. -/
theorem generations_grow (n : Nat) :
    graph.jobs ⊆ graph.generations n ∨ n ≤ (graph.generations n).length := by
  induction n with
  | zero => exact .inr (Nat.zero_le _)
  | succ n ih =>
    have grown := graph.generations_prefix n
    rcases ih with all | enough
    · exact .inl fun v listed => grown.subset (all listed)
    · by_cases shorter : (graph.generations n).length < (graph.generations (n + 1)).length
      · exact .inr (Nat.lt_of_le_of_lt enough shorter)
      · have same := grown.eq_of_length_le (Nat.le_of_not_lt shorter)
        have dry : graph.readyAfter (graph.generations n) ⊆ graph.generations n := by
          intro v ready
          rw [same]
          exact ready
        have all := jobs_subset_of_readyAfter_subset sound (nodup_generations sound n) dry
        exact .inl fun v listed => grown.subset (all listed)

/-- All jobs come out in the end. -/
theorem generations_perm : (graph.generations graph.jobs.length).Perm graph.jobs := by
  have once := nodup_generations sound graph.jobs.length
  have inside := generations_subset sound graph.jobs.length
  rcases generations_grow sound graph.jobs.length with all | enough
  · exact (List.perm_ext_iff_of_nodup once sound.jobs_nodup).mpr fun v =>
      ⟨fun member => inside member, fun member => all member⟩
  · exact (List.subperm_of_subset once inside).perm_of_length_le enough

/-- What is ready once all jobs are done are the jobs. -/
theorem readyAfter_perm (all : done.Perm graph.jobs) : (graph.readyAfter done).Perm graph.jobs := by
  have once := all.nodup_iff.mpr sound.jobs_nodup
  refine (List.perm_ext_iff_of_nodup (nodup_readyAfter sound once) sound.jobs_nodup).mpr fun v => ?_
  rw [mem_readyAfter sound once]
  refine ⟨And.left, fun listed => ⟨listed, fun u dependency => ?_⟩⟩
  exact all.mem_iff.mpr (sound.mem_jobs_of_dependency dependency)

/-- The jobs come out in exactly one order. -/
theorem readyAfter_eq_iff : order.Perm graph.jobs ∧ graph.readyAfter order = order ↔
    order = graph.generations graph.jobs.length := by
  have perm := generations_perm sound
  constructor
  · rintro ⟨all, full⟩
    have begins := generations_prefix_of_eq full graph.jobs.length
    exact (begins.eq_of_length (perm.length_eq.trans all.length_eq.symm)).symm
  · rintro rfl
    refine ⟨perm, ((graph.generations_prefix _).eq_of_length ?_).symm⟩
    exact perm.length_eq.trans (readyAfter_perm sound perm).length_eq.symm

end

/-! ## What that order is -/

/-- Of the dependencies of `v`, the one that comes last is `d`. -/
structure LastDependency (graph : Graph) (order : List JobId) (v d : JobId) : Prop where
  dependency : d ∈ graph.dependencies v
  last : ∀ u ∈ graph.dependencies v, order.idxOf u ≤ order.idxOf d

/-- The last dependency of `v` comes before that of `w`, or it is the same one and has `v` before
`w` among its dependents. -/
def ReleasedBefore (graph : Graph) (order : List JobId) (v w : JobId) : Prop :=
  ∃ d e, graph.LastDependency order v d ∧ graph.LastDependency order w e ∧
    (order.idxOf d < order.idxOf e ∨
      d = e ∧ (graph.dependents d).idxOf v < (graph.dependents d).idxOf w)

/-- The roots come first, in the order of the job list, and other jobs in the order of their last
dependencies. -/
structure BreadthFirst (graph : Graph) (order : List JobId) : Prop where
  perm : order.Perm graph.jobs
  roots : graph.roots <+: order
  released : ∀ v ∈ graph.jobs, ∀ w ∈ graph.jobs, v ∉ graph.roots → w ∉ graph.roots →
    (order.idxOf v < order.idxOf w ↔ graph.ReleasedBefore order v w)

section
variable (sound : graph.Sound) (perm : order.Perm graph.jobs)
include sound perm

theorem LastDependency.unique (one : graph.LastDependency order v d)
    (other : graph.LastDependency order v e) : d = e := by
  have member : d ∈ order := perm.mem_iff.mpr (sound.mem_jobs_of_dependency one.dependency)
  exact (List.idxOf_inj member).mp
    (Nat.le_antisymm (other.last d one.dependency) (one.last e other.dependency))

theorem ReleasedBefore.asymm (h : graph.ReleasedBefore order v w) :
    ¬ graph.ReleasedBefore order w v := by
  rintro ⟨e', d', lastW, lastV, back⟩
  obtain ⟨d, e, lastV', lastW', forth⟩ := h
  obtain rfl := lastV.unique sound perm lastV'
  obtain rfl := lastW.unique sound perm lastW'
  grind

/-- A released dependent had the reported job as its last dependency. -/
theorem lastDependency_of_released (split : done ++ [job] <+: order)
    (released : v ∈ (graph.dependents job).filter fun v =>
      ∀ u ∈ graph.dependencies v, u ≠ job → u ∈ done) : graph.LastDependency order v job := by
  obtain ⟨rest, rfl⟩ := split
  have once := perm.nodup_iff.mpr sound.jobs_nodup
  rw [List.append_assoc, List.singleton_append] at once ⊢
  obtain ⟨dependent, others⟩ := List.mem_filter.mp released
  refine ⟨mem_dependents.mp dependent, fun u dependency => ?_⟩
  by_cases same : u = job
  · exact same ▸ Nat.le_refl _
  · have before : u ∈ done := of_decide_eq_true others u dependency same
    exact Nat.le_of_lt (idxOf_lt_of_split before (Countdown.not_mem_of_nodup_append once))

/-- A job is released with the report of its last dependency. -/
theorem exists_lastDependency (split : done <+: order)
    (released : v ∈ (Countdown.start graph).releasedAll done) :
    ∃ d ∈ done, graph.LastDependency order v d := by
  induction done using List.reverseRecOn with
  | nil => simp [Countdown.releasedAll] at released
  | append_singleton done job ih =>
    have once := (perm.nodup_iff.mpr sound.jobs_nodup).sublist split.sublist
    rw [releasedAll_concat sound once] at released
    rcases List.mem_append.mp released with earlier | now
    · obtain ⟨d, member, last⟩ := ih ((List.prefix_append done [job]).trans split) earlier
      exact ⟨d, List.mem_append_left _ member, last⟩
    · exact ⟨job, by simp, lastDependency_of_released sound perm split now⟩

/-- Jobs are released in the order of their last dependencies. -/
theorem pairwise_releasedAll (split : done <+: order) :
    ((Countdown.start graph).releasedAll done).Pairwise (graph.ReleasedBefore order) := by
  induction done using List.reverseRecOn with
  | nil => exact .nil
  | append_singleton done job ih =>
    have once := (perm.nodup_iff.mpr sound.jobs_nodup).sublist split.sublist
    have shorter := (List.prefix_append done [job]).trans split
    rw [releasedAll_concat sound once]
    refine List.pairwise_append.mpr ⟨ih shorter, ?_, fun v earlier w now => ?_⟩
    · -- jobs that this report releases stand in the order of the dependents
      refine ((pairwise_idxOf (sound.nodup_dependents job)).filter _).imp_of_mem
        fun {v w} hv hw before => ?_
      exact ⟨job, job, lastDependency_of_released sound perm split hv,
        lastDependency_of_released sound perm split hw, .inr ⟨rfl, before⟩⟩
    · obtain ⟨d, member, last⟩ := exists_lastDependency sound perm shorter earlier
      refine ⟨d, job, last, lastDependency_of_released sound perm split now, .inl ?_⟩
      obtain ⟨rest, rfl⟩ := split
      rw [List.append_assoc, List.singleton_append]
      exact idxOf_lt_of_split member (Countdown.not_mem_of_nodup_append once)

/-- Behind the roots, a breadth-first order has the jobs that are released, and as they are. -/
theorem BreadthFirst.readyAfter_eq (h : graph.BreadthFirst order) :
    graph.readyAfter order = order := by
  obtain ⟨-, ⟨rest, rfl⟩, released⟩ := h
  have once := perm.nodup_iff.mpr sound.jobs_nodup
  have listed {u : JobId} (member : u ∈ rest) : u ∈ graph.jobs ∧ u ∉ graph.roots :=
    ⟨perm.mem_iff.mp (List.mem_append_right _ member),
      fun root => (List.nodup_append'.mp once).2.2 root member⟩
  have ordered : rest.Pairwise (graph.ReleasedBefore (graph.roots ++ rest)) := by
    refine ((pairwise_idxOf once).sublist (List.sublist_append_right _ _)).imp_of_mem
      fun {v w} hv hw before => ?_
    exact (released v (listed hv).1 w (listed hw).1 (listed hv).2 (listed hw).2).mp before
  have others : rest.Perm ((Countdown.start graph).releasedAll (graph.roots ++ rest)) :=
    (List.perm_append_left_iff graph.roots).mp (perm.trans (readyAfter_perm sound perm).symm)
  have same := others.eq_of_pairwise
    (fun v w _ _ before after => (before.asymm sound perm after).elim) ordered
    (pairwise_releasedAll sound perm (List.prefix_refl _))
  rw [readyAfter, ← same]

/-- The order in which the jobs come out of the queue is breadth-first. -/
theorem breadthFirst_of_readyAfter_eq (full : graph.readyAfter order = order) :
    graph.BreadthFirst order := by
  refine ⟨perm, ⟨_, full⟩, fun v hv w hw hv' hw' => ?_⟩
  have ordered : (graph.readyAfter order).Pairwise fun v w =>
      v ∉ graph.roots → w ∉ graph.roots → graph.ReleasedBefore order v w := by
    refine List.pairwise_append.mpr ⟨?_, ?_, ?_⟩
    · exact List.pairwise_of_forall_mem_list fun v root _ _ other => absurd root other
    · exact (pairwise_releasedAll sound perm (List.prefix_refl order)).imp fun before _ _ => before
    · exact fun v root _ _ other => absurd root other
  rw [full] at ordered
  constructor
  · intro before
    exact of_idxOf_lt ordered (perm.mem_iff.mpr hw) before hv' hw'
  · intro before
    rcases Nat.lt_trichotomy (order.idxOf v) (order.idxOf w) with earlier | same | later
    · exact earlier
    · obtain rfl := (List.idxOf_inj (perm.mem_iff.mpr hv)).mp same
      exact absurd before (before.asymm sound perm)
    · have back := of_idxOf_lt ordered (perm.mem_iff.mpr hv) later hw' hv'
      exact absurd back (before.asymm sound perm)

end

/-- An accepted graph has one breadth-first order: that in which the jobs come out of the queue. -/
theorem breadthFirst_iff_eq (sound : graph.Sound) :
    graph.BreadthFirst order ↔ order = graph.generations graph.jobs.length := by
  rw [← readyAfter_eq_iff sound]
  exact ⟨fun h => ⟨h.perm, h.readyAfter_eq sound h.perm⟩,
    fun ⟨perm, full⟩ => breadthFirst_of_readyAfter_eq sound perm full⟩

end

end Precedence.Graph

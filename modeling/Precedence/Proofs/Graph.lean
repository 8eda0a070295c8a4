import Mathlib.Data.List.Nodup
import Mathlib.Logic.Relation
import Precedence.Proofs.Distinct
import Precedence.Proofs.Search
import Precedence.Graph
/-!
# Accepted graphs

`Graph.Sound` collects what `Graph.build` guarantees of the graphs it accepts (`sound_of_build`):
distinct jobs, distinct edges between them, and an order in which every edge points forward. The
order is what makes an accepted graph free of cycles: `Sound.induction` proves a fact of every job
from the same fact of its dependencies.
-/

namespace Precedence

theorem mem_dependenciesIn {edges : List Edge} {u v : JobId} :
    u ∈ dependenciesIn edges v ↔ ⟨u, v⟩ ∈ edges := by
  simp only [dependenciesIn, List.mem_map, List.mem_filter, decide_eq_true_eq]
  constructor
  · rintro ⟨⟨source, target⟩, ⟨member, rfl⟩, rfl⟩; exact member
  · intro member; exact ⟨⟨u, v⟩, ⟨member, rfl⟩, rfl⟩

theorem mem_dependentsIn {edges : List Edge} {u v : JobId} :
    v ∈ dependentsIn edges u ↔ ⟨u, v⟩ ∈ edges := by
  simp only [dependentsIn, List.mem_map, List.mem_filter, decide_eq_true_eq]
  constructor
  · rintro ⟨⟨source, target⟩, ⟨member, rfl⟩, rfl⟩; exact member
  · intro member; exact ⟨⟨u, v⟩, ⟨member, rfl⟩, rfl⟩

theorem nodup_dependenciesIn {edges : List Edge} (h : edges.Nodup) (v : JobId) :
    (dependenciesIn edges v).Nodup := by
  refine List.Nodup.map_on ?_ (h.filter _)
  rintro ⟨source, target⟩ he ⟨source', target'⟩ he' rfl
  simp only [List.mem_filter, decide_eq_true_eq] at he he'
  rw [he.2, he'.2]

theorem nodup_dependentsIn {edges : List Edge} (h : edges.Nodup) (u : JobId) :
    (dependentsIn edges u).Nodup := by
  refine List.Nodup.map_on ?_ (h.filter _)
  rintro ⟨source, target⟩ he ⟨source', target'⟩ he' rfl
  simp only [List.mem_filter, decide_eq_true_eq] at he he'
  rw [he.2, he'.2]

/-- Taking every edge once, a job has every dependency once. -/
theorem dependenciesIn_distinct (edges : List Edge) (v : JobId) :
    dependenciesIn (distinct edges) v = distinct (dependenciesIn edges v) := by
  have injective : ∀ x ∈ edges.filter (·.target = v), ∀ y ∈ edges.filter (·.target = v),
      x.source = y.source → x = y := by
    rintro ⟨u, w⟩ hx ⟨u', w'⟩ hy same
    simp only [List.mem_filter, decide_eq_true_eq] at hx hy same
    rw [hx.2, hy.2, same]
  rw [dependenciesIn, distinct_filter, distinct_map injective, dependenciesIn]

theorem dependentsIn_distinct (edges : List Edge) (u : JobId) :
    dependentsIn (distinct edges) u = distinct (dependentsIn edges u) := by
  have injective : ∀ x ∈ edges.filter (·.source = u), ∀ y ∈ edges.filter (·.source = u),
      x.target = y.target → x = y := by
    rintro ⟨w, v⟩ hx ⟨w', v'⟩ hy same
    simp only [List.mem_filter, decide_eq_true_eq] at hx hy same
    rw [hx.2, hy.2, same]
  rw [dependentsIn, distinct_filter, distinct_map injective, dependentsIn]

namespace Graph

theorem edgeError_eq_none {jobs : List JobId} {edge : Edge} :
    edgeError jobs edge = none ↔
      edge.source ∈ jobs ∧ edge.target ∈ jobs ∧ edge.source ≠ edge.target := by
  unfold edgeError
  by_cases source : edge.source ∈ jobs
  · by_cases target : edge.target ∈ jobs <;> simp [source, target]
  · simp [source]

/-- One round of the backward search: it names a fresh dependency of its starting point, or there is
none and it goes on. -/
theorem backwardFind_cons (jobs : List JobId) (edges : List Edge) (fresh later : List JobId)
    (start : JobId) :
    (∃ job, backwardFind jobs edges fresh (start :: later) = some job ∧
      job ∈ dependenciesInOrder jobs edges start ∧ job ∈ fresh.erase start) ∨
    (start ∈ fresh → ∀ u ∈ dependenciesInOrder jobs edges start, u ∉ fresh.erase start) ∧
      backwardFind jobs edges fresh (start :: later) =
        backwardFind jobs edges (fresh.erase start) later := by
  rw [backwardFind]
  split
  · rename_i job _ _ two
    exact .inl ⟨job, rfl, Search.mem_next_of_visit _ _ two⟩
  · rename_i found rest single same
    have alone : (Search.visit (dependenciesInOrder jobs edges) fresh [start]).1.tail = [] := by
      rw [same]
      match found, single with
      | [], _ => rfl
      | [_], _ => rfl
      | _ :: job :: tail, single => exact (single _ job tail rfl).elim
    obtain ⟨apart, used⟩ := Search.visit_singleton _ _ _ alone
    rw [same] at used
    simp only at used
    exact .inr ⟨apart, used ▸ rfl⟩

/-- If no backward search finds a second job, the dependencies of every job come before it. -/
theorem backwardFind_eq_none {jobs : List JobId} {edges : List Edge} {order fresh : List JobId}
    (h : backwardFind jobs edges fresh order = none) {earlier later : List JobId} {u v : JobId}
    (split : order = earlier ++ v :: later) (first : v ∉ earlier) (hv : v ∈ fresh)
    (edge : u ∈ dependenciesInOrder jobs edges v) (differ : u ≠ v) (hu : u ∈ fresh) :
    u ∈ earlier := by
  induction order generalizing fresh earlier with
  | nil => simp at split
  | cons start rest ih =>
    obtain ⟨job, found, -⟩ | ⟨apart, next⟩ := backwardFind_cons jobs edges fresh rest start
    · simp [found] at h
    rw [next] at h
    cases earlier with
    | nil =>
      obtain ⟨rfl, rfl⟩ := List.cons.inj split
      exact absurd ((List.mem_erase_of_ne differ).mpr hu) (apart hv u edge)
    | cons head tail =>
      obtain ⟨rfl, remainder⟩ := List.cons.inj split
      simp only [List.mem_cons, not_or] at first ⊢
      by_cases same : u = start
      · exact .inl same
      · exact .inr (ih h remainder first.2 ((List.mem_erase_of_ne first.1).mpr hv)
          ((List.mem_erase_of_ne same).mpr hu))

/-- A job that a backward search names is a dependency of a job that comes before it. -/
theorem backwardFind_eq_some {jobs : List JobId} {edges : List Edge} {order fresh : List JobId}
    {job : JobId} (unique : fresh.Nodup) (h : backwardFind jobs edges fresh order = some job) :
    ∃ earlier start later, order = earlier ++ start :: later ∧
      job ∈ dependenciesInOrder jobs edges start ∧ job ∈ fresh ∧ job ≠ start ∧ job ∉ earlier := by
  induction order generalizing fresh with
  | nil => simp [backwardFind] at h
  | cons start rest ih =>
    obtain ⟨other, found, dependency, left⟩ | ⟨-, next⟩ :=
      backwardFind_cons jobs edges fresh rest start
    · obtain rfl := Option.some.inj (found.symm.trans h)
      obtain ⟨differ, new⟩ := unique.mem_erase_iff.mp left
      exact ⟨[], start, rest, rfl, dependency, new, differ, List.not_mem_nil⟩
    · rw [next] at h
      obtain ⟨earlier, other, later, rfl, dependency, left, differ, apart⟩ :=
        ih (unique.erase start) h
      obtain ⟨first, new⟩ := unique.mem_erase_iff.mp left
      refine ⟨start :: earlier, other, later, rfl, dependency, new, differ, ?_⟩
      exact fun member => (List.mem_cons.mp member).elim first apart

/-- What `build` guarantees of a graph. -/
structure Sound (graph : Graph) : Prop where
  jobs_nodup : graph.jobs.Nodup
  edges_nodup : graph.edges.Nodup
  source_mem : ∀ edge ∈ graph.edges, edge.source ∈ graph.jobs
  target_mem : ∀ edge ∈ graph.edges, edge.target ∈ graph.jobs
  forward : ∀ edge ∈ graph.edges,
    graph.order.idxOf edge.source < graph.order.idxOf edge.target

theorem mem_finishOrder {jobs : List JobId} {edges : List Edge} {job : JobId} (h : job ∈ jobs) :
    job ∈ finishOrder jobs edges :=
  Search.mem_finish_of_stack _ _ _ _ h

/-- An accepted graph has the jobs and, without repetitions, the edges it was built from. -/
theorem of_build {jobs : List JobId} {edges : List Edge} {graph : Graph}
    (built : build jobs edges = .ok graph) :
    graph = ⟨jobs, distinct edges, finishOrder jobs (distinct edges)⟩ ∧ jobs.Nodup ∧
      (∀ edge ∈ edges, edgeError jobs edge = none) ∧
      backwardFind jobs (distinct edges) jobs (finishOrder jobs (distinct edges)) = none := by
  simp only [build] at built
  split at built
  · simp at built
  · rename_i unique
    split at built
    · simp at built
    · rename_i wellformed
      split at built
      · simp at built
      · rename_i acyclic
        injection built with built
        exact ⟨built.symm, (repeats_eq_nil.mp unique).1,
          fun edge member => List.findSome?_eq_none_iff.mp wellformed edge member, acyclic⟩

theorem jobs_of_build {jobs : List JobId} {edges : List Edge} {graph : Graph}
    (built : build jobs edges = .ok graph) : graph.jobs = jobs := by
  rw [(of_build built).1]

theorem mem_edges_of_build {jobs : List JobId} {edges : List Edge} {graph : Graph}
    (built : build jobs edges = .ok graph) {edge : Edge} : edge ∈ graph.edges ↔ edge ∈ edges := by
  rw [(of_build built).1]
  exact mem_distinct

theorem sound_of_build {jobs : List JobId} {edges : List Edge} {graph : Graph}
    (built : build jobs edges = .ok graph) : graph.Sound := by
  obtain ⟨rfl, unique, wellformed, acyclic⟩ := of_build built
  have ends : ∀ edge ∈ distinct edges,
      edge.source ∈ jobs ∧ edge.target ∈ jobs ∧ edge.source ≠ edge.target := by
    intro edge member
    exact edgeError_eq_none.mp (wellformed edge (mem_distinct.mp member))
  refine ⟨unique, nodup_distinct edges, fun edge h => (ends edge h).1,
    fun edge h => (ends edge h).2.1, ?_⟩
  intro edge member
  obtain ⟨source, target, differ⟩ := ends edge member
  -- the part of the order before the target's first occurrence holds its dependencies
  have listed : edge.target ∈ finishOrder jobs (distinct edges) := mem_finishOrder target
  obtain ⟨earlier, later, split, first⟩ := List.eq_append_cons_of_mem listed
  have before : edge.source ∈ earlier := by
    refine backwardFind_eq_none acyclic split first target ?_ differ source
    simp only [dependenciesInOrder, List.mem_filter, decide_eq_true_eq]
    exact ⟨source, mem_dependenciesIn.mpr member⟩
  exact split ▸ idxOf_lt_of_split before first

variable {graph : Graph}

theorem mem_dependencies {u v : JobId} : u ∈ graph.dependencies v ↔ ⟨u, v⟩ ∈ graph.edges :=
  mem_dependenciesIn

theorem mem_dependents {u v : JobId} : v ∈ graph.dependents u ↔ u ∈ graph.dependencies v :=
  mem_dependentsIn.trans mem_dependencies.symm

namespace Sound

variable (sound : graph.Sound)
include sound

theorem nodup_dependencies (v : JobId) : (graph.dependencies v).Nodup :=
  nodup_dependenciesIn sound.edges_nodup v

theorem nodup_dependents (u : JobId) : (graph.dependents u).Nodup :=
  nodup_dependentsIn sound.edges_nodup u

theorem mem_jobs_of_dependency {u v : JobId} (h : u ∈ graph.dependencies v) : u ∈ graph.jobs :=
  sound.source_mem _ (mem_dependencies.mp h)

theorem mem_jobs_of_dependent {u v : JobId} (h : v ∈ graph.dependents u) : v ∈ graph.jobs :=
  sound.target_mem _ (mem_dependencies.mp (mem_dependents.mp h))

/-- A fact that each job inherits from its dependencies holds of every job. -/
theorem induction {P : JobId → Prop} (inherit : ∀ v, (∀ u ∈ graph.dependencies v, P u) → P v)
    (v : JobId) : P v := by
  generalize place : graph.order.idxOf v = n
  induction n using Nat.strongRecOn generalizing v with
  | ind n ih =>
    refine inherit v fun u dependency => ?_
    have earlier := sound.forward _ (mem_dependencies.mp dependency)
    exact ih _ (place ▸ earlier) u rfl

/-- A graph with jobs has a job without dependencies. -/
theorem roots_ne_nil (jobs : graph.jobs ≠ []) : graph.roots ≠ [] := by
  intro none
  obtain ⟨job, listed⟩ := List.exists_mem_of_ne_nil _ jobs
  refine sound.induction (P := fun v => v ∉ graph.jobs) (fun v inherited member => ?_) job listed
  have depends : graph.dependencies v ≠ [] := by
    intro independent
    have : v ∈ graph.roots := by simp [roots, indegree, member, independent]
    simp [none] at this
  obtain ⟨u, dependency⟩ := List.exists_mem_of_ne_nil _ depends
  exact inherited u dependency (sound.mem_jobs_of_dependency dependency)

end Sound

/-- Every job of a list comes after its dependencies. -/
def Ordered (graph : Graph) (l : List JobId) : Prop :=
  ∀ before v after, l = before ++ v :: after → ∀ u ∈ graph.dependencies v, u ∈ before

theorem ordered_nil (graph : Graph) : graph.Ordered [] := by simp [Ordered]

theorem Ordered.concat {l : List JobId} (h : graph.Ordered l) {v : JobId}
    (all : ∀ u ∈ graph.dependencies v, u ∈ l) : graph.Ordered (l ++ [v]) := by
  intro before w after split
  obtain rfl | ⟨rest, last, rfl⟩ := List.eq_nil_or_concat after
  · obtain ⟨rfl, same⟩ := List.append_inj' split rfl
    obtain rfl := List.head_eq_of_cons_eq same
    exact all
  · rw [List.concat_eq_append, ← List.cons_append, ← List.append_assoc] at split
    exact h before w rest (List.append_inj' split rfl).1

/-- The order of an accepted graph is one in which its jobs can run. -/
theorem Sound.ordered (sound : graph.Sound) (once : graph.order.Nodup) :
    graph.Ordered graph.order := by
  intro before v after split u dependency
  have forward := sound.forward _ (mem_dependencies.mp dependency)
  rw [split] at once forward
  have absent : v ∉ before :=
    fun again => (List.nodup_append'.mp once).2.2 again List.mem_cons_self
  by_cases inside : u ∈ before
  · exact inside
  · exfalso
    rw [List.idxOf_append_of_notMem inside, List.idxOf_append_of_notMem absent,
      List.idxOf_cons_self] at forward
    omega

theorem Ordered.mem {l : List JobId} (h : graph.Ordered l) {u v : JobId} (member : v ∈ l)
    (dependency : u ∈ graph.dependencies v) : u ∈ l := by
  obtain ⟨before, after, rfl, -⟩ := List.eq_append_cons_of_mem member
  exact List.mem_append_left _ (h before v after rfl u dependency)

theorem Ordered.idxOf_lt {l : List JobId} (h : graph.Ordered l) {u v : JobId} (member : v ∈ l)
    (dependency : u ∈ graph.dependencies v) : l.idxOf u < l.idxOf v := by
  obtain ⟨before, after, rfl, first⟩ := List.eq_append_cons_of_mem member
  exact idxOf_lt_of_split (h before v after rfl u dependency) first

/-- `u` must have succeeded before `v` may start, directly or through other jobs. -/
def Precedes (graph : Graph) : JobId → JobId → Prop :=
  Relation.TransGen fun u v => u ∈ graph.dependencies v

/-- Whether jobs lie on the stack that are no longer fresh makes no difference to a search. -/
theorem follow_eq {edges : List Edge} {seen stack fresh stack' : List JobId} (nodup : fresh.Nodup)
    (apart : ∀ u, ∀ v ∈ dependentsIn edges u, v ∈ fresh ↔ v ∉ seen)
    (same : stack.filter (· ∉ seen) = stack'.filter (· ∈ fresh)) :
    follow edges seen stack =
      (Search.visit (dependentsIn edges) fresh stack').1.reverse ++ seen := by
  fun_induction follow edges seen stack generalizing fresh stack' with
  | case1 seen =>
    have known : ∀ v ∈ stack', v ∉ fresh := fun v waits => by
      simpa using List.filter_eq_nil_iff.mp same.symm v waits
    have none : Search.visit (dependentsIn edges) fresh (stack' ++ []) =
        Search.visit (dependentsIn edges) fresh [] := Search.visit_append _ known
    rw [List.append_nil] at none
    rw [none, Search.visit]
    rfl
  | case2 seen job stack old ih =>
    exact ih nodup apart (by rwa [List.filter_cons_of_neg (by simpa using old)] at same)
  | case3 seen job stack new ih =>
    rw [List.filter_cons_of_pos (by simpa using new)] at same
    obtain ⟨passed, later, rfl, known, member, same⟩ := List.filter_eq_cons_iff.mp same.symm
    have known : ∀ v ∈ passed, v ∉ fresh := by simpa using known
    have member : job ∈ fresh := by simpa using member
    have left (v : JobId) : v ∈ fresh.erase job ↔ v ≠ job ∧ v ∈ fresh := nodup.mem_erase_iff
    have apart' : ∀ u, ∀ v ∈ dependentsIn edges u, v ∈ fresh.erase job ↔ v ∉ job :: seen := by
      intro u v waits
      rw [left, apart u v waits, List.mem_cons, not_or]
    rw [Search.visit_append _ known, Search.visit, if_pos member]
    simp only [List.reverse_cons, List.append_assoc, List.singleton_append]
    refine ih (nodup.erase job) apart' ?_
    have pushed : (dependentsIn edges job).filter (· ∉ job :: seen) =
        ((dependentsIn edges job).filter (· ∈ fresh.erase job)).filter (· ∈ fresh.erase job) := by
      rw [List.filter_filter]
      refine List.filter_congr fun v waits => ?_
      rw [Bool.and_self, decide_eq_decide]
      exact (apart' job v waits).symm
    have below : stack.filter (· ∉ job :: seen) = later.filter (· ∈ fresh.erase job) := by
      calc stack.filter (· ∉ job :: seen)
          = (stack.filter (· ∉ seen)).filter (· ≠ job) := by
            rw [List.filter_filter]
            exact List.filter_congr fun v _ => by simp
        _ = (later.filter (· ∈ fresh)).filter (· ≠ job) := by rw [same]
        _ = later.filter (· ∈ fresh.erase job) := by
            rw [List.filter_filter]
            exact List.filter_congr fun v _ => by simp [left]
    rw [List.filter_append, List.filter_append, List.filter_reverse, List.filter_reverse, pushed,
      below]

section
variable (sound : graph.Sound) (job : JobId)
include sound

theorem Sound.mem_jobs_of_precedes {u v : JobId} (precedes : graph.Precedes u v) :
    v ∈ graph.jobs := by
  obtain ⟨w, -, dependency⟩ := Relation.TransGen.tail'_iff.mp precedes
  exact sound.mem_jobs_of_dependent (mem_dependents.mpr dependency)

theorem downstream_eq : graph.downstream job = JobId.sort
    (Search.visit graph.dependents graph.jobs (graph.dependents job).reverse).1.reverse := by
  have listed : ∀ u, ∀ v ∈ graph.dependents u, v ∈ graph.jobs := fun _ _ =>
    sound.mem_jobs_of_dependent
  have all : (graph.dependents job).reverse.filter (· ∉ ([] : List JobId)) =
      (graph.dependents job).reverse.filter (· ∈ graph.jobs) := by
    refine List.filter_congr fun v waits => ?_
    simpa using listed job v (List.mem_reverse.mp waits)
  rw [downstream, follow_eq sound.jobs_nodup (fun u v waits => by simpa using listed u v waits) all,
    List.append_nil]
  rfl

/-- What is downstream of a job is all that the job precedes. -/
theorem mem_downstream {v : JobId} : v ∈ graph.downstream job ↔ graph.Precedes job v := by
  rw [downstream_eq sound, JobId.sort, List.mem_mergeSort, List.mem_reverse]
  constructor
  · refine Search.visit_sound (P := graph.Precedes job) (fun u before w dependent => ?_) _ _
      (fun u dependent => .single (mem_dependents.mp (List.mem_reverse.mp dependent))) v
    exact before.tail (mem_dependents.mp dependent)
  · intro precedes
    have listed {u w : JobId} (h : u ∈ graph.dependencies w) : w ∈ graph.jobs :=
      sound.mem_jobs_of_dependent (mem_dependents.mpr h)
    induction precedes with
    | single dependency =>
      exact Search.mem_visit_of_stack _ _ _ (List.mem_reverse.mpr (mem_dependents.mpr dependency))
        (listed dependency)
    | tail _ dependency ih =>
      exact Search.mem_visit_of_next _ _ _ ih (mem_dependents.mpr dependency) (listed dependency)

/-- The jobs downstream of a job stand in ascending order, each once. -/
theorem ascending_downstream : (graph.downstream job).Pairwise (·.name < ·.name) := by
  have ordered : (graph.downstream job).Pairwise (JobId.le · ·) := by
    refine List.pairwise_mergeSort (fun a b c => ?_) (fun a b => ?_) _
    · simpa [JobId.le] using String.le_trans
    · simpa [JobId.le] using String.le_total a.name b.name
  have distinct : (graph.downstream job).Nodup := by
    rw [downstream_eq sound, JobId.sort, (List.mergeSort_perm _ _).nodup_iff, List.nodup_reverse]
    exact Search.nodup_visit _ sound.jobs_nodup _
  refine (ordered.and distinct).imp fun {a b} h => ?_
  have differ : a.name ≠ b.name := fun same => h.2 (by cases a; cases b; simp_all)
  have le : a.name ≤ b.name := by simpa [JobId.le] using h.1
  exact Std.lt_of_le_of_ne le differ

end

/-- Two jobs between a first and a last one. -/
def diamond : Graph where
  jobs := [⟨"1"⟩, ⟨"2"⟩, ⟨"3"⟩, ⟨"4"⟩]
  edges := [⟨⟨"1"⟩, ⟨"2"⟩⟩, ⟨⟨"1"⟩, ⟨"3"⟩⟩, ⟨⟨"2"⟩, ⟨"4"⟩⟩, ⟨⟨"3"⟩, ⟨"4"⟩⟩]
  order := [⟨"1"⟩, ⟨"2"⟩, ⟨"3"⟩, ⟨"4"⟩]

theorem build_diamond : build diamond.jobs diamond.edges = .ok diamond := by cbv

theorem downstream_diamond : diamond.downstream ⟨"2"⟩ = [⟨"4"⟩] := by cbv

end Graph

end Precedence

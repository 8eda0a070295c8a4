import Precedence.Proofs.Graph
/-!
# Which jobs and edges make a graph

`Graph.build` accepts what is `Acceptable`: distinct jobs, edges between them, and no way round in a
circle (`accepts_exactly_acyclic`). The two searches err on different sides. Without cycles the
first one puts every job before its dependents (`forward_finishOrder`), so the second one finds
nothing behind any job (`backwardFind_eq_none_of_forward`). And an order in which the second search
finds nothing has every edge pointing forward, which leaves no room for a cycle
(`Sound.idxOf_lt_of_path`).
-/

namespace Precedence

/-- A job can be reached from another along one or more edges. -/
def Path (edges : List Edge) : JobId → JobId → Prop :=
  Relation.TransGen fun u v => ⟨u, v⟩ ∈ edges

theorem leads_dependentsIn {edges : List Edge} {u v : JobId} :
    Search.Leads (dependentsIn edges) u v ↔ Path edges u v := by
  simp only [Search.Leads, Path, mem_dependentsIn]

theorem path_distinct {edges : List Edge} {u v : JobId} :
    Path (distinct edges) u v ↔ Path edges u v := by
  simp only [Path, mem_distinct]

namespace Graph

/-- What a list of jobs and a list of edges must be like to make a graph. -/
structure Acceptable (jobs : List JobId) (edges : List Edge) : Prop where
  distinct : jobs.Nodup
  listed : ∀ edge ∈ edges, edge.source ∈ jobs ∧ edge.target ∈ jobs
  proper : ∀ edge ∈ edges, edge.source ≠ edge.target
  acyclic : ∀ job, ¬ Path edges job job

section
variable {jobs : List JobId} {edges : List Edge}

theorem finishOrder_perm (unique : jobs.Nodup) : (finishOrder jobs edges).Perm jobs := by
  have once : (finishOrder jobs edges).Nodup := Search.nodup_finish _ _ List.nodup_nil _
  refine (List.perm_ext_iff_of_nodup once unique).mpr fun job => ⟨fun finished => ?_, mem_finishOrder⟩
  rcases Search.mem_of_mem_finish _ _ _ _ finished with none | waits | fresh
  · simp at none
  · exact waits
  · exact fresh

/-- Without cycles, every job is finished after the jobs that wait for it. -/
theorem forward_finishOrder (unique : jobs.Nodup) (listed : ∀ edge ∈ edges, edge.target ∈ jobs)
    (acyclic : ∀ job, ¬ Path edges job job) :
    Search.Forward (dependentsIn edges) (finishOrder jobs edges) := by
  refine Search.forward_finish (fun job round => acyclic job (leads_dependentsIn.mp round)) ?_
    (Search.midway_start unique)
  exact fun u v dependent => listed ⟨u, v⟩ (mem_dependentsIn.mp dependent)

/-- The backward searches find nothing if the fresh dependencies of every job come before it. -/
theorem backwardFind_eq_none_of_before {fresh order : List JobId} (unique : fresh.Nodup)
    (before : ∀ earlier v later, order = earlier ++ v :: later →
      ∀ u ∈ dependenciesInOrder jobs edges v, u ∈ fresh → u ∈ earlier) :
    backwardFind jobs edges fresh order = none := by
  induction order generalizing fresh with
  | nil => rfl
  | cons start rest ih =>
    have apart : ∀ u ∈ dependenciesInOrder jobs edges start, u ∉ fresh := by
      intro u dependency inside
      simpa using before [] start rest rfl u dependency inside
    by_cases inside : start ∈ fresh
    · have alone := Search.visit_start _ inside fun u dependency (left : u ∈ fresh.erase start) =>
        apart u dependency (List.mem_of_mem_erase left)
      simp only [backwardFind, alone]
      refine ih (unique.erase start) fun earlier v later split u dependency left => ?_
      obtain ⟨differ, inside⟩ := unique.mem_erase_iff.mp left
      have := before (start :: earlier) v later (by rw [split]; rfl) u dependency inside
      exact (List.mem_cons.mp this).resolve_left differ
    · have nothing : Search.visit (dependenciesInOrder jobs edges) fresh [start] = ([], fresh) := by
        simp [Search.visit, inside]
      simp only [backwardFind, nothing]
      refine ih unique fun earlier v later split u dependency left => ?_
      have := before (start :: earlier) v later (by rw [split]; rfl) u dependency left
      exact (List.mem_cons.mp this).resolve_left fun same => inside (same ▸ left)

theorem backwardFind_eq_none_of_forward {order : List JobId} (unique : jobs.Nodup)
    (perm : order.Perm jobs) (forward : Search.Forward (dependentsIn edges) order) :
    backwardFind jobs edges jobs order = none := by
  refine backwardFind_eq_none_of_before unique fun earlier v later split u dependency inside => ?_
  have depends : v ∈ dependentsIn edges u := by
    simp only [dependenciesInOrder, List.mem_filter, decide_eq_true_eq] at dependency
    exact mem_dependentsIn.mpr (mem_dependenciesIn.mp dependency.2)
  subst split
  exact forward.mem_before (perm.nodup_iff.mpr unique) (perm.mem_iff.mpr inside) depends

theorem Acceptable.build (h : Acceptable jobs edges) :
    build jobs edges =
      .ok ⟨jobs, Precedence.distinct edges, finishOrder jobs (Precedence.distinct edges)⟩ := by
  have unique : repeats [] jobs = [] := repeats_eq_nil.mpr ⟨h.distinct, by simp⟩
  have wellformed : edges.findSome? (edgeError jobs) = none := by
    refine List.findSome?_eq_none_iff.mpr fun edge member => edgeError_eq_none.mpr ?_
    exact ⟨(h.listed edge member).1, (h.listed edge member).2, h.proper edge member⟩
  have forward : Search.Forward (dependentsIn (Precedence.distinct edges))
      (finishOrder jobs (Precedence.distinct edges)) := by
    refine forward_finishOrder h.distinct (fun edge member => ?_) fun job round => ?_
    · exact (h.listed edge (mem_distinct.mp member)).2
    · exact h.acyclic job (path_distinct.mp round)
  have acyclic := backwardFind_eq_none_of_forward h.distinct (finishOrder_perm h.distinct) forward
  simp only [Graph.build, unique, wellformed, acyclic]

end

/-- An order in which every edge points forward makes every path point forward. -/
theorem Sound.idxOf_lt_of_path {graph : Graph} (sound : graph.Sound) {u v : JobId}
    (path : Path graph.edges u v) : graph.order.idxOf u < graph.order.idxOf v := by
  induction path with
  | single edge => exact sound.forward _ edge
  | tail _ edge ih => exact Nat.lt_trans ih (sound.forward _ edge)

theorem acceptable_of_build {jobs : List JobId} {edges : List Edge} {graph : Graph}
    (built : build jobs edges = .ok graph) : Acceptable jobs edges := by
  have sound := sound_of_build built
  obtain ⟨rfl, unique, wellformed, -⟩ := of_build built
  have ends := fun edge member => edgeError_eq_none.mp (wellformed edge member)
  refine ⟨unique, fun edge member => ⟨(ends edge member).1, (ends edge member).2.1⟩,
    fun edge member => (ends edge member).2.2, fun job round => ?_⟩
  exact Nat.lt_irrefl _ (sound.idxOf_lt_of_path (path_distinct.mpr round))

/-- In an accepted graph a job precedes another if edges lead from it to the other. -/
theorem precedes_iff_path {jobs : List JobId} {edges : List Edge} {graph : Graph}
    (built : build jobs edges = .ok graph) {u v : JobId} :
    graph.Precedes u v ↔ Path edges u v := by
  simp only [Precedes, Path, mem_dependencies, mem_edges_of_build built]

/-- A list of jobs and a list of edges make a graph if and only if the jobs are distinct, every edge
connects two different ones of them, and the edges make no cycle. The order of the graph is then the
list of jobs, rearranged so that every edge points forward. -/
theorem accepts_exactly_acyclic (jobs : List JobId) (edges : List Edge) :
    ((∃ graph, build jobs edges = .ok graph) ↔ Acceptable jobs edges) ∧
      ∀ graph, build jobs edges = .ok graph → graph.order.Perm jobs ∧
        ∀ edge ∈ edges, graph.order.idxOf edge.source < graph.order.idxOf edge.target := by
  refine ⟨⟨fun ⟨graph, built⟩ => acceptable_of_build built, fun h => ⟨_, h.build⟩⟩, ?_⟩
  intro graph built
  have sound := sound_of_build built
  constructor
  · obtain ⟨rfl, unique, -⟩ := of_build built
    exact finishOrder_perm unique
  · intro edge member
    exact sound.forward edge ((mem_edges_of_build built).mpr member)

end Graph

end Precedence

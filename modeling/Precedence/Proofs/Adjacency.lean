import Mathlib.Data.Finset.Card
import Mathlib.Data.Finset.Dedup
import Precedence.Adjacency
import Precedence.Proofs.Acceptance
import Precedence.Proofs.Countdown.Series
/-!
# Neighbours and the edge list

`Adjacency.read` enters every edge in two lists and in a count, one edge after the other. What one
edge does is said once (`Holds.link`): the lists, the seen edges and the count stay those of the
edges that were read, each taken once. So reading fails where `Graph.build` does, cycles apart
(`read_eq_error_iff`), and for an accepted graph it gives the neighbours of the graph
(`neighbours_follow_edges`). These stand in the order in which their edges are first given, and the
edges of the graph, counted at either end or by the counters of a new countdown, are the distinct
ones.
-/

namespace Precedence

namespace Adjacency

section
variable {jobs : List JobId} {edges : List Edge} {a : Adjacency} {job : JobId}

/-! ## The jobs -/

theorem neighbours_append (a : Adjacency) (more : List (JobId × Neighbours)) (job : JobId) :
    ({ a with nodes := a.nodes ++ more } : Adjacency).neighbours job =
      (a.neighbours job).or (more.lookup job) :=
  List.lookup_append

/-- Jobs are entered up to the first one that was entered before. -/
theorem foldlM_enter {earlier : List JobId}
    (known : ∀ job, (a.neighbours job).isSome ↔ job ∈ earlier) (jobs : List JobId) :
    jobs.foldlM enter a = match repeats earlier jobs with
      | job :: _ => .error (.duplicateJob job)
      | [] => .ok { a with nodes := a.nodes ++ jobs.map (·, {}) } := by
  induction jobs generalizing a earlier with
  | nil => simp [repeats, pure, Except.pure]
  | cons job rest ih =>
    rw [List.foldlM_cons, enter]
    by_cases before : job ∈ earlier
    · rw [if_pos ((known job).mpr before), repeats, if_pos before]
      rfl
    · rw [if_neg fun some => before ((known job).mp some), repeats, if_neg before]
      have next : ∀ other, (({ a with nodes := a.nodes ++ [(job, {})] } : Adjacency).neighbours
          other).isSome ↔ other ∈ job :: earlier := by
        intro other
        rw [neighbours_append, List.mem_cons, ← known other]
        by_cases same : other = job
        · simp [same]
        · simp [List.lookup_cons, beq_eq_false_iff_ne.mpr same, same]
      refine (ih next).trans ?_
      simp

/-! ## The edges -/

theorem lookup_update (nodes : List (JobId × Neighbours)) (job : JobId)
    (change : Neighbours → Neighbours) (other : JobId) :
    (update nodes job change).lookup other =
      if other = job then (nodes.lookup other).map change else nodes.lookup other := by
  induction nodes with
  | nil => simp [update]
  | cons entry rest ih =>
    obtain ⟨key, known⟩ := entry
    simp only [update, List.map_cons] at ih ⊢
    by_cases found : other = key
    · subst found
      by_cases asked : other = job <;> simp [asked]
    · have miss : (other == key) = false := beq_eq_false_iff_ne.mpr found
      by_cases set : key = job
      · simp only [if_pos set, List.lookup_cons, miss]
        exact ih
      · simp only [if_neg set, List.lookup_cons, miss]
        exact ih

/-- The jobs are listed, and what is known of them comes from the edges, each taken once. -/
structure Holds (jobs : List JobId) (edges : List Edge) (a : Adjacency) : Prop where
  neighbours : ∀ job, a.neighbours job = if job ∈ jobs then
    some ⟨dependenciesIn (distinct edges) job, dependentsIn (distinct edges) job⟩ else none
  seen : a.seen = distinct edges
  edgeCount : a.edgeCount = (distinct edges).length

theorem holds_entered (jobs : List JobId) :
    Holds jobs [] ⟨jobs.map (·, {}), [], 0⟩ := by
  refine ⟨fun job => ?_, rfl, rfl⟩
  induction jobs with
  | nil => rfl
  | cons first rest ih =>
    by_cases same : job = first
    · simp [neighbours, same, distinct, dependenciesIn, dependentsIn]
    · simpa [neighbours, List.lookup_cons, beq_eq_false_iff_ne.mpr same, same] using ih

theorem Holds.isNone_iff (h : Holds jobs edges a) (job : JobId) :
    (a.neighbours job).isNone ↔ job ∉ jobs := by
  rw [h.neighbours job]
  by_cases listed : job ∈ jobs <;> simp [listed]

theorem dependenciesIn_concat (edges : List Edge) (edge : Edge) (job : JobId) :
    dependenciesIn (edges ++ [edge]) job =
      if job = edge.target then dependenciesIn edges job ++ [edge.source]
      else dependenciesIn edges job := by
  by_cases here : job = edge.target
  · simp [dependenciesIn, here]
  · simp [dependenciesIn, here, Ne.symm here]

theorem dependentsIn_concat (edges : List Edge) (edge : Edge) (job : JobId) :
    dependentsIn (edges ++ [edge]) job =
      if job = edge.source then dependentsIn edges job ++ [edge.target]
      else dependentsIn edges job := by
  by_cases here : job = edge.source
  · simp [dependentsIn, here]
  · simp [dependentsIn, here, Ne.symm here]

/-- An edge that is wrong is refused. -/
theorem Holds.link_error (h : Holds jobs edges a) {edge : Edge} {error : GraphError}
    (wrong : Graph.edgeError jobs edge = some error) : a.link edge = .error error := by
  simp only [link, h.isNone_iff]
  unfold Graph.edgeError at wrong
  split at wrong
  · rename_i unlisted
    rw [if_pos unlisted, Option.some.inj wrong]
  · rename_i source
    rw [if_neg source]
    split at wrong
    · rename_i unlisted
      rw [if_pos unlisted, Option.some.inj wrong]
    · rename_i target
      rw [if_neg target]
      split at wrong
      · rename_i same
        rw [if_pos same, Option.some.inj wrong]
      · simp at wrong

/-- Any other edge is added to what its two ends know, unless it was seen before. -/
theorem Holds.link (h : Holds jobs edges a) {edge : Edge}
    (fine : Graph.edgeError jobs edge = none) :
    ∃ after, a.link edge = .ok after ∧ Holds jobs (edges ++ [edge]) after := by
  obtain ⟨source, target, differ⟩ := Graph.edgeError_eq_none.mp fine
  simp only [Adjacency.link, h.isNone_iff, source, target, differ, not_true_eq_false, if_false]
  by_cases before : edge ∈ edges
  · rw [if_pos (by simpa [h.seen] using before)]
    have same : distinct (edges ++ [edge]) = distinct edges := by
      rw [distinct_concat, if_pos before]
    exact ⟨a, rfl, ⟨same ▸ h.neighbours, same ▸ h.seen, same ▸ h.edgeCount⟩⟩
  · rw [if_neg (by simpa [h.seen] using before)]
    have one_more : distinct (edges ++ [edge]) = distinct edges ++ [edge] := by
      rw [distinct_concat, if_neg before]
    refine ⟨_, rfl, ⟨fun job => ?_, by simp [h.seen, one_more], by simp [h.edgeCount, one_more]⟩⟩
    have old : a.nodes.lookup job = _ := h.neighbours job
    simp only [Adjacency.neighbours, lookup_update, old, one_more, dependenciesIn_concat,
      dependentsIn_concat]
    by_cases first : job = edge.source
    · have second : job ≠ edge.target := fun same => differ (first.symm.trans same)
      simp only [first, first ▸ second, source, if_true, if_false, Option.map_some]
    · by_cases second : job = edge.target
      · simp only [second, second ▸ first, target, if_true, if_false, Option.map_some]
      · simp only [first, second, if_false]

/-- Edges are added up to the first one that is wrong. -/
theorem Holds.foldlM_link (h : Holds jobs edges a) (more : List Edge) :
    match more.findSome? (Graph.edgeError jobs) with
    | some error => more.foldlM Adjacency.link a = .error error
    | none => ∃ after,
        more.foldlM Adjacency.link a = .ok after ∧ Holds jobs (edges ++ more) after := by
  induction more generalizing edges a with
  | nil => exact ⟨a, rfl, by simpa using h⟩
  | cons edge rest ih =>
    rw [List.findSome?_cons, List.foldlM_cons]
    cases wrong : Graph.edgeError jobs edge with
    | some error =>
      rw [h.link_error wrong]
      rfl
    | none =>
      obtain ⟨next, linked, holds⟩ := h.link wrong
      rw [linked, List.append_cons]
      exact ih holds

/-- Reading goes the way of `Graph.build`, up to the point where that looks for cycles. -/
theorem read_cases (jobs : List JobId) (edges : List Edge) :
    match repeats [] jobs with
    | job :: _ => read jobs edges = .error (.duplicateJob job)
    | [] =>
      match edges.findSome? (Graph.edgeError jobs) with
      | some error => read jobs edges = .error error
      | none => ∃ a, read jobs edges = .ok a ∧ Holds jobs edges a := by
  have unknown (job : JobId) : (({} : Adjacency).neighbours job).isSome ↔ job ∈ [] := by
    simp [neighbours]
  have entered := foldlM_enter unknown jobs
  cases again : repeats [] jobs with
  | cons job rest =>
    rw [again] at entered
    simp only [read, entered]
    rfl
  | nil =>
    rw [again] at entered
    have linked := (holds_entered jobs).foldlM_link edges
    simp only [List.nil_append] at entered linked
    have goes : read jobs edges = edges.foldlM Adjacency.link ⟨jobs.map (·, {}), [], 0⟩ := by
      simp only [read, entered]
      rfl
    rwa [goes]

theorem edgeError_ne_cycle (jobs : List JobId) (edge : Edge) (job : JobId) :
    Graph.edgeError jobs edge ≠ some (.cycle job) := by
  unfold Graph.edgeError
  split
  · simp
  · split
    · simp
    · split <;> simp

/-- Reading fails with the error that `Graph.build` gives, unless that is about a cycle. -/
theorem read_eq_error_iff {error : GraphError} :
    read jobs edges = .error error ↔
      Graph.build jobs edges = .error error ∧ ∀ job, error ≠ .cycle job := by
  have went := read_cases jobs edges
  cases again : repeats [] jobs with
  | cons job rest =>
    rw [again] at went
    simp only [Graph.build, again, went, Except.error.injEq]
    refine ⟨?_, And.left⟩
    rintro rfl
    exact ⟨rfl, by simp⟩
  | nil =>
    cases wrong : edges.findSome? (Graph.edgeError jobs) with
    | some fault =>
      simp only [again, wrong] at went
      simp only [Graph.build, again, wrong, went, Except.error.injEq]
      refine ⟨?_, And.left⟩
      rintro rfl
      refine ⟨rfl, ?_⟩
      rintro job rfl
      obtain ⟨edge, -, names⟩ := List.exists_of_findSome?_eq_some wrong
      exact edgeError_ne_cycle jobs edge job names
    | none =>
      simp only [again, wrong] at went
      obtain ⟨a, done, -⟩ := went
      simp only [Graph.build, again, wrong, done, reduceCtorEq, false_iff, not_and]
      intro fails other
      split at fails
      · rename_i job _
        exact other job (Except.error.inj fails).symm
      · simp at fails

theorem read_of_build {graph : Graph} (built : Graph.build jobs edges = .ok graph) :
    ∃ a, read jobs edges = .ok a ∧ Holds jobs edges a := by
  obtain ⟨-, unique, wellformed, -⟩ := Graph.of_build built
  have cases := read_cases jobs edges
  have once : repeats [] jobs = [] := repeats_eq_nil.mpr ⟨unique, by simp⟩
  have fine : edges.findSome? (Graph.edgeError jobs) = none :=
    List.findSome?_eq_none_iff.mpr wellformed
  simpa only [once, fine] using cases

theorem Holds.of_unlisted (h : Holds jobs edges a) (unlisted : job ∉ jobs) :
    a.dependencies job = [] ∧ a.dependents job = [] := by
  have unknown := h.neighbours job
  rw [if_neg unlisted] at unknown
  simp [dependencies, dependents, unknown]

/-- What was read says the same of every job as the graph of the same jobs and edges. -/
theorem Holds.neighbours_eq {graph : Graph} (h : Holds jobs edges a)
    (built : Graph.build jobs edges = .ok graph) (job : JobId) :
    a.dependencies job = graph.dependencies job ∧ a.dependents job = graph.dependents job := by
  have sound := Graph.sound_of_build built
  obtain ⟨rfl, -⟩ := Graph.of_build built
  by_cases listed : job ∈ jobs
  · have known := h.neighbours job
    rw [if_pos listed] at known
    simp [dependencies, dependents, known, Graph.dependencies, Graph.dependents]
  · obtain ⟨none, none'⟩ := h.of_unlisted listed
    rw [none, none', eq_comm, List.eq_nil_iff_forall_not_mem, eq_comm,
      List.eq_nil_iff_forall_not_mem]
    constructor
    · intro u dependency
      exact listed (sound.target_mem _ (Graph.mem_dependencies.mp dependency))
    · intro v dependent
      exact listed (sound.mem_jobs_of_dependency (Graph.mem_dependents.mp dependent))

end

end Adjacency

namespace Graph

section
variable {jobs : List JobId} {edges : List Edge} {graph : Graph}

/-- Turned round, the edges from a job are the edges into it. -/
theorem dependentsIn_eq_dependenciesIn (edges : List Edge) (job : JobId) :
    dependentsIn edges job =
      dependenciesIn (edges.map fun edge => ⟨edge.target, edge.source⟩) job := by
  simp [dependentsIn, dependenciesIn, List.filter_map, Function.comp_def]

/-- Every edge is an edge into one of the jobs. -/
theorem sum_length_dependenciesIn (distinct : jobs.Nodup)
    (listed : ∀ edge ∈ edges, edge.target ∈ jobs) :
    (jobs.map fun v => (dependenciesIn edges v).length).sum = edges.length := by
  simpa using sum_countP_dependenciesIn distinct listed fun _ => true

theorem Sound.sum_indegree (sound : graph.Sound) :
    (graph.jobs.map graph.indegree).sum = graph.edges.length :=
  sum_length_dependenciesIn sound.jobs_nodup sound.target_mem

theorem Sound.sum_length_dependents (sound : graph.Sound) :
    (graph.jobs.map fun u => (graph.dependents u).length).sum = graph.edges.length := by
  let turned : List Edge := graph.edges.map fun edge => ⟨edge.target, edge.source⟩
  have listed : ∀ edge ∈ turned, edge.target ∈ graph.jobs := by
    simpa [turned] using sound.source_mem
  simpa [dependents, dependentsIn_eq_dependenciesIn, turned] using
    sum_length_dependenciesIn sound.jobs_nodup listed

theorem Sound.outstanding_start (sound : graph.Sound) :
    (Countdown.start graph).outstanding = graph.edges.length := by
  simpa [Countdown.finishAll] using Countdown.outstanding_finishAll sound List.nodup_nil

/-- A graph does not change if later duplicates of its edges are left out. -/
theorem build_distinct (built : build jobs edges = .ok graph) :
    build jobs (distinct edges) = .ok graph := by
  have accepted := acceptable_of_build built
  have once : Acceptable jobs (distinct edges) :=
    ⟨accepted.distinct, fun edge member => accepted.listed edge (mem_distinct.mp member),
      fun edge member => accepted.proper edge (mem_distinct.mp member),
      fun job round => accepted.acyclic job (path_distinct.mp round)⟩
  rw [once.build, distinct_of_nodup (nodup_distinct edges), (of_build built).1]

/-- The graph says of the jobs what the edges say, each edge taken once. -/
structure Reflects (graph : Graph) (jobs : List JobId) (edges : List Edge) : Prop where
  /-- The sources of the edges into a job, in the order in which the edges were first given. -/
  dependencies : ∀ v, FirstOccurrences (graph.dependencies v)
    ((edges.filter (·.target = v)).map (·.source))
  dependents : ∀ u, FirstOccurrences (graph.dependents u)
    ((edges.filter (·.source = u)).map (·.target))
  converse : ∀ u v, u ∈ graph.dependencies v ↔ v ∈ graph.dependents u
  /-- The distinct edges are as many as the edges into the jobs, the edges out of them, and the
  dependencies that are outstanding before anything is reported. -/
  edgeCount : graph.edges.length = edges.toFinset.card
  indegrees : (jobs.map graph.indegree).sum = graph.edges.length
  outdegrees : (jobs.map fun u => (graph.dependents u).length).sum = graph.edges.length
  outstanding : (Countdown.start graph).outstanding = graph.edges.length
  roots : graph.roots = jobs.filter fun job => ∀ edge ∈ edges, edge.target ≠ job

theorem reflects_of_build (built : build jobs edges = .ok graph) : graph.Reflects jobs edges := by
  have sound := sound_of_build built
  obtain rfl := jobs_of_build built
  have edges_eq : graph.edges = distinct edges := by rw [(of_build built).1]
  refine ⟨fun v => ?_, fun u => ?_, fun u v => mem_dependents.symm, ?_, sound.sum_indegree,
    sound.sum_length_dependents, sound.outstanding_start, ?_⟩
  · rw [Graph.dependencies, edges_eq, dependenciesIn_distinct]
    exact firstOccurrences_distinct _
  · rw [Graph.dependents, edges_eq, dependentsIn_distinct]
    exact firstOccurrences_distinct _
  · rw [← List.toFinset_card_of_nodup sound.edges_nodup]
    congr 1
    ext edge
    simp [edges_eq]
  · refine List.filter_congr fun job _ => decide_eq_decide.mpr ?_
    rw [indegree, List.length_eq_zero_iff, List.eq_nil_iff_forall_not_mem]
    simp only [mem_dependencies, mem_edges_of_build built]
    constructor
    · rintro none edge member rfl
      exact none edge.source member
    · exact fun none u member => none ⟨u, job⟩ member rfl

/-- However often an edge is given to an accepted graph, it counts once and where it is given first:
in the lists of neighbours, in the degrees, in the counters and in the roots. So the edges without
their later duplicates make the same graph, with the same order; and lists that are filled edge by
edge, as the edges are read, hold the neighbours of the graph. -/
theorem neighbours_follow_edges (built : build jobs edges = .ok graph) :
    graph.Reflects jobs edges ∧
    (∀ once, FirstOccurrences once edges → build jobs once = .ok graph) ∧
    ∃ a, Adjacency.read jobs edges = .ok a ∧ a.edgeCount = graph.edges.length ∧
      ∀ job, a.dependencies job = graph.dependencies job ∧
        a.dependents job = graph.dependents job := by
  refine ⟨reflects_of_build built, fun once first => ?_, ?_⟩
  · rw [first.eq_distinct]
    exact build_distinct built
  · obtain ⟨a, done, holds⟩ := Adjacency.read_of_build built
    refine ⟨a, done, ?_, holds.neighbours_eq built⟩
    rw [holds.edgeCount, (of_build built).1]

end

/-- Three jobs in a row, with an edge past the one in the middle. -/
def shortcut : Graph where
  jobs := [⟨"a"⟩, ⟨"b"⟩, ⟨"c"⟩]
  edges := [⟨⟨"b"⟩, ⟨"c"⟩⟩, ⟨⟨"a"⟩, ⟨"b"⟩⟩, ⟨⟨"a"⟩, ⟨"c"⟩⟩]
  order := [⟨"a"⟩, ⟨"b"⟩, ⟨"c"⟩]

/-- Two of the edges are given again, one of them before all were given. -/
theorem shortcut_follows_edges :
    let edges := [⟨⟨"b"⟩, ⟨"c"⟩⟩, ⟨⟨"a"⟩, ⟨"b"⟩⟩, ⟨⟨"b"⟩, ⟨"c"⟩⟩, ⟨⟨"a"⟩, ⟨"c"⟩⟩, ⟨⟨"a"⟩, ⟨"b"⟩⟩]
    build shortcut.jobs edges = .ok shortcut ∧ shortcut.Reflects shortcut.jobs edges ∧
      shortcut.dependencies ⟨"c"⟩ = [⟨"b"⟩, ⟨"a"⟩] ∧
      build shortcut.jobs shortcut.edges = .ok shortcut := by
  intro edges
  have built : build shortcut.jobs edges = .ok shortcut := by cbv
  obtain ⟨reflects, same, -⟩ := neighbours_follow_edges built
  exact ⟨built, reflects, rfl, same _ (firstOccurrences_distinct edges)⟩

end Graph

end Precedence

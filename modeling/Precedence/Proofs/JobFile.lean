import Precedence.JobFile
import Precedence.Proofs.Graph
import Precedence.Proofs.Text.Bytes
/-!
# The graph of a job file

A checked file is turned into jobs and edges a second time when its scheduler is made, entry by
entry (`JobFile.tasks`). Both ways give the same jobs and edges (`tasks_eq`), so the scheduler gets
the graph that was checked (`make_tasks`). Its neighbours can be read off the file: a job waits for
what it names, each name once and in the order of the file (`dependencies_eq`), and it holds up the
jobs that name it, in the order of their names (`dependents_eq`).
-/

namespace Precedence

namespace JobFile

variable {file : JobFile} {graph : Graph}

theorem nodup_ids (file : JobFile) : file.ids.Nodup := by
  refine List.pairwise_map.mpr (file.ascending.imp fun {a b} above same => ?_)
  exact Std.lt_irrefl (same ▸ above)

/-- No other entry of the file has the name of a job. -/
theorem append_of_mem {job : JobId} {spec : JobSpec} (entry : (job, spec) ∈ file.jobs) :
    ∃ before after, file.jobs = before ++ (job, spec) :: after ∧
      (∀ e ∈ before, e.1 ≠ job) ∧ ∀ e ∈ after, e.1 ≠ job := by
  obtain ⟨before, after, split⟩ := List.append_of_mem entry
  have once : (before.map (·.1) ++ job :: after.map (·.1)).Nodup := by
    simpa [ids, split] using file.nodup_ids
  obtain ⟨-, once, apart⟩ := List.nodup_append'.mp once
  refine ⟨before, after, split, fun e member same => ?_, fun e member same => ?_⟩
  · exact apart (List.mem_map_of_mem member) (same ▸ List.mem_cons_self)
  · exact (List.nodup_cons.mp once).1 (same ▸ List.mem_map_of_mem member)

theorem mem_ids {job : JobId} : job ∈ file.ids ↔ ∃ spec, (job, spec) ∈ file.jobs := by
  simp [ids]

theorem mem_edges {edge : Edge} :
    edge ∈ file.edges ↔ ∃ spec, (edge.target, spec) ∈ file.jobs ∧ edge.source ∈ spec.after := by
  simp only [edges, edgesInto, List.mem_flatMap, List.mem_map, Prod.exists]
  constructor
  · rintro ⟨job, spec, entry, dependency, named, rfl⟩
    exact ⟨spec, entry, named⟩
  · rintro ⟨spec, entry, named⟩
    exact ⟨edge.target, spec, entry, edge.source, named, rfl⟩

/-! ## The scheduler of a file -/

theorem foldl_edgesInto (job : JobId) (after : List JobId) (edges : List Edge) :
    after.foldl (fun edges dependency => edges ++ [⟨dependency, job⟩]) edges =
      edges ++ after.map fun dependency => ⟨dependency, job⟩ := by
  induction after generalizing edges with
  | nil => exact (List.append_nil edges).symm
  | cons dependency rest ih =>
    rw [List.foldl_cons, ih, List.append_assoc, List.map_cons, List.singleton_append]

/-- What is collected entry by entry is what the whole file gives. -/
theorem tasks_eq (file : JobFile) :
    file.tasks = (file.jobs.map fun entry => (entry.1, entry.2.command), file.edges) := by
  have collected (entries : List (JobId × JobSpec)) (tasks : List (JobId × String) × List Edge) :
      entries.foldl (fun tasks entry => (tasks.1 ++ [(entry.1, entry.2.command)],
          entry.2.after.foldl (fun edges dependency => edges ++ [⟨dependency, entry.1⟩]) tasks.2))
          tasks =
        (tasks.1 ++ entries.map fun entry => (entry.1, entry.2.command),
          tasks.2 ++ entries.flatMap fun entry => edgesInto entry.1 entry.2) := by
    induction entries generalizing tasks with
    | nil => simp
    | cons entry rest ih =>
      rw [List.foldl_cons, ih, foldl_edgesInto]
      simp [edgesInto]
  exact collected file.jobs ([], [])

theorem map_fst_tasks (file : JobFile) : file.tasks.1.map (·.1) = file.ids := by
  simp [tasks_eq, ids]

theorem build_of_check (checked : file.check = .ok graph) :
    Graph.build file.ids file.edges = .ok graph := by
  unfold check at checked
  split at checked
  · simp at checked
  · split at checked
    · simp at checked
    · split at checked
      · simp at checked
      · split at checked
        · simp at checked
        · rename_i built
          injection checked with same
          exact same ▸ built

/-- A scheduler made from the tasks of a checked file has the graph that was checked. -/
theorem make_tasks (checked : file.check = .ok graph) (workers : Nat) :
    Scheduler.make (file.tasks.1.map (·.1)) file.tasks.2 workers = .ok { graph, workers } := by
  rw [map_fst_tasks, Scheduler.make, tasks_eq, build_of_check checked]
  rfl

/-! ## The neighbours of a job -/

theorem filter_target_edges {job : JobId} {spec : JobSpec} (entry : (job, spec) ∈ file.jobs) :
    file.edges.filter (·.target = job) = edgesInto job spec := by
  have others {entries : List (JobId × JobSpec)} (apart : ∀ e ∈ entries, e.1 ≠ job) :
      (entries.flatMap fun entry => edgesInto entry.1 entry.2).filter (·.target = job) = [] := by
    refine List.filter_eq_nil_iff.mpr fun edge member => ?_
    simp only [edgesInto, List.mem_flatMap, List.mem_map, Prod.exists] at member
    obtain ⟨other, _, inside, _, -, rfl⟩ := member
    simpa using apart _ inside
  obtain ⟨before, after, split, earlier, later⟩ := append_of_mem entry
  have own : (edgesInto job spec).filter (·.target = job) = edgesInto job spec := by
    refine List.filter_eq_self.mpr fun edge member => ?_
    obtain ⟨dependency, -, rfl⟩ := List.mem_map.mp member
    simp
  simp [edges, split, others earlier, others later, own]

/-- A job waits for what it names. -/
theorem dependencies_eq (checked : file.check = .ok graph) {job : JobId} {spec : JobSpec}
    (entry : (job, spec) ∈ file.jobs) : graph.dependencies job = distinct spec.after := by
  rw [(Graph.of_build (build_of_check checked)).1, Graph.dependencies, dependenciesIn_distinct,
    dependenciesIn, filter_target_edges entry]
  simp [edgesInto, Function.comp_def]

theorem distinct_namers (entries : List (JobId × JobSpec)) (once : (entries.map (·.1)).Nodup)
    (job : JobId) :
    distinct (entries.flatMap fun entry =>
        List.replicate (entry.2.after.countP (· = job)) entry.1) =
      (entries.filter fun entry => job ∈ entry.2.after).map (·.1) := by
  induction entries with
  | nil => rfl
  | cons entry rest ih =>
    obtain ⟨absent, once⟩ := List.nodup_cons.mp once
    have fresh : entry.1 ∉ rest.flatMap fun entry =>
        List.replicate (entry.2.after.countP (· = job)) entry.1 := by
      intro member
      obtain ⟨other, inside, named⟩ := List.mem_flatMap.mp member
      refine absent (List.mem_map.mpr ⟨other, inside, ?_⟩)
      exact (List.eq_of_mem_replicate named).symm
    rw [List.flatMap_cons, distinct_replicate_append fresh, ih once]
    by_cases named : job ∈ entry.2.after
    · have counted : entry.2.after.countP (· = job) ≠ 0 := by simpa using named
      rw [if_neg counted, List.filter_cons_of_pos (by simpa using named), List.map_cons]
    · have counted : entry.2.after.countP (· = job) = 0 :=
        List.countP_eq_zero.mpr fun u member same => named (of_decide_eq_true same ▸ member)
      rw [if_pos counted, List.filter_cons_of_neg (by simpa using named)]

/-- A job holds up the jobs that name it. -/
theorem dependents_eq (checked : file.check = .ok graph) (job : JobId) :
    graph.dependents job = (file.jobs.filter fun entry => job ∈ entry.2.after).map (·.1) := by
  have named : (file.edges.filter (·.source = job)).map (·.target) =
      file.jobs.flatMap fun entry =>
        List.replicate (entry.2.after.countP (· = job)) entry.1 := by
    simp only [edges, List.filter_flatMap, List.map_flatMap, edgesInto, List.filter_map,
      List.map_map, Function.comp_def, List.map_const', List.countP_eq_length_filter]
  rw [(Graph.of_build (build_of_check checked)).1, Graph.dependents, dependentsIn_distinct,
    dependentsIn, named, distinct_namers _ file.nodup_ids]

/-- What a graph has from the job file that it was made from. -/
structure Depicts (graph : Graph) (file : JobFile) : Prop where
  jobs : graph.jobs = file.ids
  /-- The jobs stand in the order of the bytes of their names. -/
  ascending : graph.jobs.Pairwise fun a b =>
    Text.Utf8.encode a.name < Text.Utf8.encode b.name
  dependencies : ∀ job spec, (job, spec) ∈ file.jobs →
    graph.dependencies job = distinct spec.after
  dependents : ∀ job,
    graph.dependents job = (file.jobs.filter fun entry => job ∈ entry.2.after).map (·.1)
  dependents_ascending : ∀ job, (graph.dependents job).Pairwise fun a b =>
    Text.Utf8.encode a.name < Text.Utf8.encode b.name

theorem ascending_ids (file : JobFile) : file.ids.Pairwise fun a b =>
    Text.Utf8.encode a.name < Text.Utf8.encode b.name :=
  List.pairwise_map.mpr (file.ascending.imp Text.Utf8.encode_lt_encode)

theorem depicts (checked : file.check = .ok graph) : Depicts graph file where
  jobs := Graph.jobs_of_build (build_of_check checked)
  ascending := by
    rw [Graph.jobs_of_build (build_of_check checked)]
    exact file.ascending_ids
  dependencies job spec entry := dependencies_eq checked entry
  dependents := dependents_eq checked
  dependents_ascending job := by
    have namers : ((file.jobs.filter fun entry => job ∈ entry.2.after).map (·.1)).Sublist
        file.ids := List.filter_sublist.map _
    rw [dependents_eq checked]
    exact file.ascending_ids.sublist namers

/-- Whatever the size of its pool, the scheduler of a checked file is made, and it has the graph
that was checked: the jobs and the dependencies that the file names. -/
theorem scheduler_has_checked_graph (checked : file.check = .ok graph) (workers : Nat) :
    ∃ scheduler : Scheduler,
      Scheduler.make (file.tasks.1.map (·.1)) file.tasks.2 workers = .ok scheduler ∧
        scheduler.graph = graph ∧ scheduler.workers = workers ∧ Depicts scheduler.graph file :=
  ⟨_, make_tasks checked workers, rfl, rfl, depicts checked⟩

/-- Three jobs, of which the last two name what they wait for more than once. -/
def insistent : JobFile where
  jobs := [(⟨"a"⟩, { command := "true" }),
    (⟨"b"⟩, { command := "true", after := [⟨"a"⟩, ⟨"a"⟩] }),
    (⟨"c"⟩, { command := "true", after := [⟨"b"⟩, ⟨"a"⟩, ⟨"b"⟩] })]
  ascending := by decide

theorem insistent_check : insistent.check = .ok ⟨insistent.ids,
    [⟨⟨"a"⟩, ⟨"b"⟩⟩, ⟨⟨"b"⟩, ⟨"c"⟩⟩, ⟨⟨"a"⟩, ⟨"c"⟩⟩], insistent.ids⟩ := by
  have fine : insistent.jobs.findSome? insistent.jobError = none := by rfl
  have built : Graph.build insistent.ids insistent.edges = .ok ⟨insistent.ids,
    [⟨⟨"a"⟩, ⟨"b"⟩⟩, ⟨⟨"b"⟩, ⟨"c"⟩⟩, ⟨⟨"a"⟩, ⟨"c"⟩⟩], insistent.ids⟩ := by cbv
  simp only [check, fine, built]
  rfl

theorem insistent_has_checked_graph : ∃ scheduler : Scheduler,
    Scheduler.make (insistent.tasks.1.map (·.1)) insistent.tasks.2 3 = .ok scheduler ∧
      Depicts scheduler.graph insistent ∧
      scheduler.graph.dependencies ⟨"c"⟩ = [⟨"b"⟩, ⟨"a"⟩] := by
  obtain ⟨scheduler, made, -, -, depicts⟩ := scheduler_has_checked_graph insistent_check 3
  refine ⟨scheduler, made, depicts, ?_⟩
  exact depicts.dependencies ⟨"c"⟩ ⟨"true", [⟨"b"⟩, ⟨"a"⟩, ⟨"b"⟩], none⟩ (by decide)

end JobFile

end Precedence

import Precedence.Proofs.JobFile
import Precedence.Proofs.Rejection
/-!
# Which job files are valid

A job file is accepted as it is if and only if it is `Valid`, and what is wrong with it first is
what it is rejected for (`validation_finds_first_fault`). The jobs are looked at in the order of
their names, and each one's command before its dependencies (`Improper`).

Once every job is `Proper`, the names are distinct and every edge connects two different ones. So of
all that can be wrong with a graph only a cycle is left (`firstFault_of_check`).
-/

namespace Precedence.JobFile

/-- A job must have succeeded before another may start, directly or through others. -/
def Requires (file : JobFile) : JobId → JobId → Prop :=
  Relation.TransGen fun u v => ∃ spec, (v, spec) ∈ file.jobs ∧ u ∈ spec.after

/-- Some character is not blank. -/
def Written (text : String) : Prop := ∃ c ∈ text.toList, Text.isBlank c = false

/-- What a job of a file must be like. -/
structure Proper (file : JobFile) (job : JobId) (spec : JobSpec) : Prop where
  command : Written spec.command
  dependencies : ∀ dependency ∈ spec.after, dependency ∈ file.ids ∧ dependency ≠ job

/-- What is wrong first with a job: a dependency is looked up before it is asked whether it is the
job itself. -/
inductive Improper (file : JobFile) (job : JobId) (spec : JobSpec) : JobFileError → Prop where
  | command (blank : ¬ Written spec.command) : Improper file job spec (.emptyCommand job)
  | unknown {before after : List JobId} {dependency : JobId} (command : Written spec.command)
      (split : spec.after = before ++ dependency :: after)
      (first : ∀ d ∈ before, d ∈ file.ids ∧ d ≠ job) (unlisted : dependency ∉ file.ids) :
      Improper file job spec (.unknownDependency job dependency)
  | itself {before after : List JobId} (command : Written spec.command)
      (split : spec.after = before ++ job :: after)
      (first : ∀ d ∈ before, d ∈ file.ids ∧ d ≠ job) (listed : job ∈ file.ids) :
      Improper file job spec (.selfDependency job)

structure Valid (file : JobFile) : Prop where
  jobs : file.jobs ≠ []
  workers : file.workers ≠ some 0
  proper : ∀ job spec, (job, spec) ∈ file.jobs → file.Proper job spec
  acyclic : ∀ job, ¬ file.Requires job job

/-- What is wrong first with a file. -/
inductive FirstFault (file : JobFile) : JobFileError → Prop where
  | noJobs (none : file.jobs = []) : FirstFault file .noJobs
  | zeroWorkers (jobs : file.jobs ≠ []) (zero : file.workers = some 0) :
      FirstFault file .zeroWorkers
  /-- Nothing is wrong with any job whose name comes before. -/
  | job {job : JobId} {spec : JobSpec} {error : JobFileError} (workers : file.workers ≠ some 0)
      (entry : (job, spec) ∈ file.jobs)
      (first : ∀ other known, (other, known) ∈ file.jobs → other.name < job.name →
        file.Proper other known)
      (wrong : file.Improper job spec error) : FirstFault file error
  /-- Nothing is wrong with any job, but a job would have to wait for itself. -/
  | cycle {job : JobId} (workers : file.workers ≠ some 0)
      (proper : ∀ other known, (other, known) ∈ file.jobs → file.Proper other known)
      (round : file.Requires job job) : FirstFault file (.graph (.cycle job))

variable {file : JobFile} {graph : Graph} {job dependency : JobId} {spec : JobSpec}
  {error : JobFileError}

/-! ## One job -/

theorem allBlank_eq_true {text : String} : Text.allBlank text = true ↔ ¬ Written text := by
  simp [Text.allBlank, Written]

theorem dependencyError_eq_none :
    file.dependencyError job dependency = none ↔ dependency ∈ file.ids ∧ dependency ≠ job := by
  unfold dependencyError
  by_cases listed : dependency ∈ file.ids
  · by_cases same : dependency = job
    · subst same
      simp [listed]
    · simp [listed, same]
  · simp [listed]

theorem findSome?_dependencyError_eq_none {dependencies : List JobId} :
    dependencies.findSome? (file.dependencyError job) = none ↔
      ∀ d ∈ dependencies, d ∈ file.ids ∧ d ≠ job := by
  simp only [List.findSome?_eq_none_iff, dependencyError_eq_none]

theorem jobError_eq_none : file.jobError (job, spec) = none ↔ file.Proper job spec := by
  unfold jobError
  by_cases blank : Text.allBlank spec.command = true
  · rw [if_pos blank]
    constructor
    · intro wrong
      simp at wrong
    · intro proper
      exact absurd proper.command (allBlank_eq_true.mp blank)
  · rw [if_neg blank, findSome?_dependencyError_eq_none]
    rw [allBlank_eq_true, not_not] at blank
    exact ⟨fun dependencies => ⟨blank, dependencies⟩, fun proper => proper.dependencies⟩

theorem improper_of_jobError (wrong : file.jobError (job, spec) = some error) :
    file.Improper job spec error := by
  unfold jobError at wrong
  split at wrong
  · rename_i blank
    exact Option.some.inj wrong ▸ .command (allBlank_eq_true.mp blank)
  · rename_i written
    rw [allBlank_eq_true, not_not] at written
    obtain ⟨before, dependency, after, split, found, earlier⟩ :=
      List.findSome?_eq_some_iff.mp wrong
    have first : ∀ d ∈ before, d ∈ file.ids ∧ d ≠ job :=
      fun d member => dependencyError_eq_none.mp (earlier d member)
    unfold dependencyError at found
    split at found
    · rename_i unlisted
      exact Option.some.inj found ▸ .unknown written split first unlisted
    · rename_i listed
      split at found
      · rename_i same
        subst same
        exact Option.some.inj found ▸ .itself written split first (not_not.mp listed)
      · simp at found

theorem jobError_of_improper (wrong : file.Improper job spec error) :
    file.jobError (job, spec) = some error := by
  have earlier {before : List JobId} (first : ∀ d ∈ before, d ∈ file.ids ∧ d ≠ job) :
      ∀ d ∈ before, file.dependencyError job d = none :=
    fun d member => dependencyError_eq_none.mpr (first d member)
  unfold jobError
  cases wrong with
  | command blank => exact if_pos (allBlank_eq_true.mpr blank)
  | @unknown before after dependency command split first unlisted =>
    rw [if_neg (fun blank => allBlank_eq_true.mp blank command)]
    refine List.findSome?_eq_some_iff.mpr ⟨before, dependency, after, split, ?_, earlier first⟩
    exact if_pos unlisted
  | @itself before after command split first listed =>
    rw [if_neg (fun blank => allBlank_eq_true.mp blank command)]
    refine List.findSome?_eq_some_iff.mpr ⟨before, job, after, split, ?_, earlier first⟩
    rw [dependencyError, if_neg (not_not.mpr listed), if_pos rfl]

/-! ## All jobs -/

theorem findSome?_jobError_eq_none : file.jobs.findSome? file.jobError = none ↔
    ∀ job spec, (job, spec) ∈ file.jobs → file.Proper job spec := by
  simp only [List.findSome?_eq_none_iff, Prod.forall, jobError_eq_none]

/-- The jobs of a file before an entry are those whose names come before. -/
theorem mem_before_iff {before after : List (JobId × JobSpec)}
    (split : file.jobs = before ++ (job, spec) :: after) {other : JobId} {known : JobSpec} :
    (other, known) ∈ before ↔ (other, known) ∈ file.jobs ∧ other.name < job.name := by
  have ascending := file.ascending
  rw [split, List.pairwise_append] at ascending
  obtain ⟨-, later, earlier⟩ := ascending
  constructor
  · intro member
    refine ⟨split ▸ List.mem_append_left _ member, ?_⟩
    exact earlier _ member _ List.mem_cons_self
  · rintro ⟨member, less⟩
    rw [split, List.mem_append, List.mem_cons] at member
    obtain inside | same | behind := member
    · exact inside
    · obtain ⟨rfl, rfl⟩ := Prod.mk.inj same
      exact absurd less Std.lt_irrefl
    · have above := (List.pairwise_cons.mp later).1 _ behind
      exact absurd (Std.lt_trans less above) Std.lt_irrefl

theorem findSome?_jobError_eq_some : file.jobs.findSome? file.jobError = some error ↔
    ∃ job spec, (job, spec) ∈ file.jobs ∧
      (∀ other known, (other, known) ∈ file.jobs → other.name < job.name →
        file.Proper other known) ∧ file.Improper job spec error := by
  rw [List.findSome?_eq_some_iff]
  constructor
  · rintro ⟨before, ⟨job, spec⟩, after, split, wrong, earlier⟩
    refine ⟨job, spec, ?_, ?_, improper_of_jobError wrong⟩
    · rw [split]
      simp
    · intro other known member less
      have inside := (mem_before_iff split).mpr ⟨member, less⟩
      exact jobError_eq_none.mp (earlier _ inside)
  · rintro ⟨job, spec, entry, first, wrong⟩
    obtain ⟨before, after, split⟩ := List.append_of_mem entry
    refine ⟨before, (job, spec), after, split, jobError_of_improper wrong, ?_⟩
    rintro ⟨other, known⟩ member
    obtain ⟨listed, less⟩ := (mem_before_iff split).mp member
    exact jobError_eq_none.mpr (first other known listed less)

theorem path_iff_requires {u v : JobId} : Path file.edges u v ↔ file.Requires u v := by
  simp only [Path, Requires, mem_edges]

/-- When nothing is wrong with any job, the edges connect two different jobs of the file. -/
theorem proper_edges (proper : ∀ job spec, (job, spec) ∈ file.jobs → file.Proper job spec) :
    ∀ edge ∈ file.edges, Graph.Proper file.ids edge := by
  intro edge member
  obtain ⟨spec, entry, named⟩ := mem_edges.mp member
  obtain ⟨listed, differ⟩ := (proper edge.target spec entry).dependencies _ named
  exact ⟨listed, mem_ids.mpr ⟨spec, entry⟩, differ⟩

theorem Valid.acceptable (valid : file.Valid) : Graph.Acceptable file.ids file.edges := by
  have fine := proper_edges valid.proper
  refine ⟨file.nodup_ids, ?_, ?_, ?_⟩
  · exact fun edge member => ⟨(fine edge member).source, (fine edge member).target⟩
  · exact fun edge member => (fine edge member).differ
  · intro job round
    exact valid.acyclic job (path_iff_requires.mp round)

/-- Only a cycle is left for the graph to find. -/
theorem requires_of_build (proper : ∀ job spec, (job, spec) ∈ file.jobs → file.Proper job spec)
    {error : GraphError} (rejected : Graph.build file.ids file.edges = .error error) :
    ∃ job, error = .cycle job ∧ file.Requires job job := by
  -- the names are distinct and every edge is proper, so neither an id nor an edge is wrong
  cases Graph.firstFault_of_build rejected with
  | @duplicate before after job split first again =>
    have unique := file.nodup_ids
    rw [split] at unique
    exact absurd again (Countdown.not_mem_of_nodup_append unique)
  | @edge before after edge error unique split first wrong =>
    have member : edge ∈ file.edges := split ▸ List.mem_append_right before List.mem_cons_self
    obtain ⟨source, target, differ⟩ := proper_edges proper edge member
    cases wrong with
    | source unlisted => exact absurd source unlisted
    | target _ unlisted => exact absurd target unlisted
    | loop _ same => exact absurd same differ
  | @cycle job unique proper round => exact ⟨job, rfl, path_iff_requires.mp round⟩

theorem check_of_valid (valid : file.Valid) : ∃ graph, file.check = .ok graph := by
  have fine := findSome?_jobError_eq_none.mpr valid.proper
  have built := valid.acceptable.build
  unfold check
  rw [if_neg valid.jobs, if_neg valid.workers, fine, built]
  exact ⟨_, rfl⟩

theorem firstFault_of_check (rejected : file.check = .error error) : file.FirstFault error := by
  unfold check at rejected
  by_cases jobs : file.jobs = []
  · rw [if_pos jobs] at rejected
    exact Except.error.inj rejected ▸ .noJobs jobs
  by_cases workers : file.workers = some 0
  · rw [if_neg jobs, if_pos workers] at rejected
    exact Except.error.inj rejected ▸ .zeroWorkers jobs workers
  rw [if_neg jobs, if_neg workers] at rejected
  split at rejected
  · rename_i wrong found
    obtain ⟨job, spec, entry, first, improper⟩ := findSome?_jobError_eq_some.mp found
    exact Except.error.inj rejected ▸ .job workers entry first improper
  · rename_i fine
    have proper := findSome?_jobError_eq_none.mp fine
    split at rejected
    · rename_i wrong built
      obtain ⟨job, rfl, round⟩ := requires_of_build proper built
      exact Except.error.inj rejected ▸ .cycle workers proper round
    · simp at rejected

theorem valid_of_check (checked : file.check = .ok graph) : file.Valid := by
  have acceptable := Graph.acceptable_of_build (build_of_check checked)
  unfold check at checked
  by_cases jobs : file.jobs = []
  · simp [jobs] at checked
  by_cases workers : file.workers = some 0
  · simp [jobs, workers] at checked
  rw [if_neg jobs, if_neg workers] at checked
  split at checked
  · simp at checked
  · rename_i fine
    refine ⟨jobs, workers, findSome?_jobError_eq_none.mp fine, ?_⟩
    intro job round
    exact acceptable.acyclic job (path_iff_requires.mpr round)

/-- What is wrong first is what the file is rejected for, but for the choice of a job on a cycle. -/
theorem check_of_firstFault (fault : file.FirstFault error) :
    ∃ given, file.check = .error given ∧
      (given = error ∨ ∃ job other, given = .graph (.cycle job) ∧
        error = .graph (.cycle other)) := by
  unfold check
  cases fault with
  | noJobs none => exact ⟨_, if_pos none, .inl rfl⟩
  | zeroWorkers jobs zero =>
    rw [if_neg jobs, if_pos zero]
    exact ⟨_, rfl, .inl rfl⟩
  | job workers entry first wrong =>
    have found := findSome?_jobError_eq_some.mpr ⟨_, _, entry, first, wrong⟩
    rw [if_neg (List.ne_nil_of_mem entry), if_neg workers, found]
    exact ⟨_, rfl, .inl rfl⟩
  | @cycle job workers proper round =>
    -- a job that requires itself is listed
    have some : file.jobs ≠ [] := by
      obtain ⟨_, ⟨spec, entry, -⟩, -⟩ := Relation.TransGen.head'_iff.mp round
      exact List.ne_nil_of_mem entry
    rw [if_neg some, if_neg workers, findSome?_jobError_eq_none.mpr proper]
    cases built : Graph.build file.ids file.edges with
    | ok graph =>
      have acyclic := (Graph.acceptable_of_build built).acyclic job
      exact absurd (path_iff_requires.mpr round) acyclic
    | error wrong =>
      obtain ⟨other, rfl, -⟩ := requires_of_build proper built
      exact ⟨_, rfl, .inr ⟨other, job, rfl, rfl⟩⟩

/-- A file is rejected because of its settings or because of a cycle. -/
theorem FirstFault.toError_cases (fault : file.FirstFault error) :
    (∃ reason, error.toError = .configuration reason) ∨ ∃ job, file.Requires job job ∧
      error.toError = .cycle s!"cycle detected in job DAG involving job '{job.name}'" := by
  cases fault with
  | noJobs | zeroWorkers => exact .inl ⟨_, rfl⟩
  | job _ _ _ wrong => cases wrong <;> exact .inl ⟨_, rfl⟩
  | @cycle job _ _ round => exact .inr ⟨job, round, rfl⟩

theorem validated_eq_ok {answer : JobFile × Graph} :
    file.validated = .ok answer ↔ answer.1 = file ∧ file.check = .ok answer.2 := by
  obtain ⟨same, graph⟩ := answer
  unfold validated
  cases checked : file.check with
  | error error => simp [Except.mapError, bind, Except.bind]
  | ok found =>
    simp [Except.mapError, bind, Except.bind, pure, Except.pure, eq_comm]

theorem validated_eq_error {error : Error} :
    file.validated = .error error ↔ ∃ fault, file.check = .error fault ∧ error = fault.toError := by
  unfold validated
  cases checked : file.check with
  | error fault => simp [Except.mapError, bind, Except.bind, eq_comm]
  | ok graph => simp [Except.mapError, bind, Except.bind, pure, Except.pure]

/-- A file is accepted if and only if it has jobs, sets no empty pool, every command is written and
every dependency is another job of the file, and no job would have to wait for itself; and it is
then left as it is. Otherwise it is rejected for what is wrong with it first: its jobs are looked at
in the order of their names, and only when nothing is wrong with any of them a job on a cycle is
named. No other error of a graph comes up. -/
theorem validation_finds_first_fault (file : JobFile) :
    ((∃ answer, file.validated = .ok answer) ↔ file.Valid) ∧
    (∀ answer, file.validated = .ok answer → answer.1 = file) ∧
    (∀ error, file.validated = .error error →
      (∃ fault, file.FirstFault fault ∧ error = fault.toError) ∧
      ((∃ reason, error = .configuration reason) ∨ ∃ job, file.Requires job job ∧
        error = .cycle s!"cycle detected in job DAG involving job '{job.name}'")) ∧
    ∀ fault, file.FirstFault fault → ∃ given, file.validated = .error given.toError ∧
      (given = fault ∨ ∃ job other, given = .graph (.cycle job) ∧
        fault = .graph (.cycle other)) := by
  refine ⟨⟨?_, ?_⟩, ?_, ?_, ?_⟩
  · rintro ⟨answer, accepted⟩
    exact valid_of_check (validated_eq_ok.mp accepted).2
  · intro valid
    obtain ⟨graph, checked⟩ := check_of_valid valid
    exact ⟨(file, graph), validated_eq_ok.mpr ⟨rfl, checked⟩⟩
  · intro answer accepted
    exact (validated_eq_ok.mp accepted).1
  · intro error rejected
    obtain ⟨fault, found, rfl⟩ := validated_eq_error.mp rejected
    have first := firstFault_of_check found
    exact ⟨⟨fault, first, rfl⟩, first.toError_cases⟩
  · intro fault first
    obtain ⟨given, found, same⟩ := check_of_firstFault first
    exact ⟨given, validated_eq_error.mpr ⟨given, found, rfl⟩, same⟩

/-- The second job names itself before a name that is unknown. The command of the third job, which
is blank, is not looked at. -/
def tangled : JobFile where
  jobs := [(⟨"a"⟩, { command := "true" }),
    (⟨"b"⟩, { command := "true", after := [⟨"a"⟩, ⟨"b"⟩, ⟨"z"⟩] }),
    (⟨"c"⟩, { command := " " })]
  ascending := by decide

theorem tangled_is_rejected :
    tangled.validated = .error (.configuration "job 'b' cannot depend on itself in \x60after\x60") ∧
      (∃ fault, tangled.FirstFault fault ∧
        fault.toError = .configuration "job 'b' cannot depend on itself in \x60after\x60") ∧
      insistent.Valid := by
  have rejected : tangled.validated =
      .error (.configuration "job 'b' cannot depend on itself in \x60after\x60") := by rfl
  obtain ⟨-, -, explained, -⟩ := validation_finds_first_fault tangled
  obtain ⟨⟨fault, first, same⟩, -⟩ := explained _ rejected
  obtain ⟨accepted, -⟩ := validation_finds_first_fault insistent
  exact ⟨rejected, ⟨fault, first, same.symm⟩,
    accepted.mp ⟨(insistent, _), validated_eq_ok.mpr ⟨rfl, insistent_check⟩⟩⟩

end Precedence.JobFile

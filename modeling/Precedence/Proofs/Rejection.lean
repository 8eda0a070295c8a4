import Precedence.Proofs.Adjacency
/-!
# What is wrong first

`Graph.build` rejects what is not `Acceptable`, and its error says what is wrong: the first id that
repeats an earlier one, else the first ill-formed edge, else a job on a cycle (`FirstFault`,
`first_fault_decides_rejection`). That the named job lies on a cycle takes both searches. A backward
search names a dependency of a job that stands before it in the order of finishing
(`backwardFind_eq_some`), and an edge that points backward in that order is answered by a path the
other way (`Search.returning_finish`).
-/

namespace Precedence.Graph

/-- An edge between two different jobs of a list. -/
structure Proper (jobs : List JobId) (edge : Edge) : Prop where
  source : edge.source ∈ jobs
  target : edge.target ∈ jobs
  differ : edge.source ≠ edge.target

/-- What is wrong with an edge. Its source is looked at before its target, and both before it is
asked whether they are the same. -/
inductive IllFormed (jobs : List JobId) (edge : Edge) : GraphError → Prop where
  | source (unlisted : edge.source ∉ jobs) :
      IllFormed jobs edge (.unknownJob edge edge.source)
  | target (source : edge.source ∈ jobs) (unlisted : edge.target ∉ jobs) :
      IllFormed jobs edge (.unknownJob edge edge.target)
  | loop (source : edge.source ∈ jobs) (same : edge.source = edge.target) :
      IllFormed jobs edge (.selfDependency edge.source)

/-- What is wrong first with a list of jobs and a list of edges. -/
inductive FirstFault (jobs : List JobId) (edges : List Edge) : GraphError → Prop where
  /-- No id before this one repeats another. -/
  | duplicate {before after : List JobId} {job : JobId} (split : jobs = before ++ job :: after)
      (first : before.Nodup) (again : job ∈ before) : FirstFault jobs edges (.duplicateJob job)
  /-- No id is repeated, and no edge before this one is ill-formed. -/
  | edge {before after : List Edge} {edge : Edge} {error : GraphError} (unique : jobs.Nodup)
      (split : edges = before ++ edge :: after) (first : ∀ e ∈ before, Proper jobs e)
      (wrong : IllFormed jobs edge error) : FirstFault jobs edges error
  /-- Nothing is wrong with any id or edge, but a path leads from the job back to itself. -/
  | cycle {job : JobId} (unique : jobs.Nodup) (proper : ∀ e ∈ edges, Proper jobs e)
      (round : Path edges job job) : FirstFault jobs edges (.cycle job)

section
variable {jobs : List JobId} {edges : List Edge} {edge : Edge} {error : GraphError} {job : JobId}

theorem edgeError_eq_none_iff_proper : edgeError jobs edge = none ↔ Proper jobs edge :=
  edgeError_eq_none.trans ⟨fun ⟨source, target, differ⟩ => ⟨source, target, differ⟩,
    fun proper => ⟨proper.source, proper.target, proper.differ⟩⟩

theorem edgeError_eq_some : edgeError jobs edge = some error ↔ IllFormed jobs edge error := by
  unfold edgeError
  constructor
  · intro wrong
    split at wrong
    · rename_i unlisted
      exact Option.some.inj wrong ▸ .source unlisted
    · rename_i source
      split at wrong
      · rename_i unlisted
        exact Option.some.inj wrong ▸ .target (not_not.mp source) unlisted
      · split at wrong
        · rename_i same
          exact Option.some.inj wrong ▸ .loop (not_not.mp source) same
        · simp at wrong
  · rintro (unlisted | ⟨source, unlisted⟩ | ⟨source, same⟩)
    · rw [if_pos unlisted]
    · rw [if_neg (not_not.mpr source), if_pos unlisted]
    · rw [if_neg (not_not.mpr source), if_neg (not_not.mpr (same ▸ source)), if_pos same]

theorem findSome?_edgeError_eq_some : edges.findSome? (edgeError jobs) = some error ↔
    ∃ before edge after, edges = before ++ edge :: after ∧ (∀ e ∈ before, Proper jobs e) ∧
      IllFormed jobs edge error := by
  simp only [List.findSome?_eq_some_iff, edgeError_eq_some, edgeError_eq_none_iff_proper]
  constructor <;> rintro ⟨before, edge, after, split, one, two⟩ <;>
    exact ⟨before, edge, after, split, two, one⟩

theorem findSome?_edgeError_eq_none :
    edges.findSome? (edgeError jobs) = none ↔ ∀ e ∈ edges, Proper jobs e := by
  simp only [List.findSome?_eq_none_iff, edgeError_eq_none_iff_proper]

/-! ## The job on a cycle -/

/-- Every job is finished after its dependents, unless a path leads from them back to it. -/
theorem returning_finishOrder (unique : jobs.Nodup) (listed : ∀ edge ∈ edges, edge.target ∈ jobs) :
    Search.Returning (dependentsIn edges) (finishOrder jobs edges) := by
  refine Search.returning_finish ?_ (Search.midway_start unique)
  exact fun u v dependent => listed ⟨u, v⟩ (mem_dependentsIn.mp dependent)

/-- A job that a backward search names lies on a cycle. -/
theorem path_of_backwardFind (unique : jobs.Nodup) (listed : ∀ edge ∈ edges, edge.target ∈ jobs)
    (found : backwardFind jobs edges jobs (finishOrder jobs edges) = some job) :
    Path edges job job := by
  obtain ⟨earlier, start, later, split, dependency, listedJob, differ, apart⟩ :=
    backwardFind_eq_some unique found
  have perm : (finishOrder jobs edges).Perm jobs := finishOrder_perm unique
  have back : ⟨job, start⟩ ∈ edges := by
    simp only [dependenciesInOrder, List.mem_filter, decide_eq_true_eq] at dependency
    exact mem_dependenciesIn.mp dependency.2
  -- the job stands after the start of the search, though an edge leads from it to there
  have behind : job ∈ later := by
    have placed : job ∈ earlier ++ start :: later := split ▸ perm.mem_iff.mpr listedJob
    have rest := (List.mem_append.mp placed).resolve_left apart
    exact (List.mem_cons.mp rest).resolve_left differ
  obtain ⟨between, after, rfl⟩ := List.append_of_mem behind
  have answered := returning_finishOrder unique listed (earlier ++ start :: between) job after
    (by simpa using split) start (mem_dependentsIn.mpr back)
  have once : (earlier ++ start :: (between ++ job :: after)).Nodup :=
    split ▸ perm.nodup_iff.mpr unique
  have path : Path edges start job := by
    refine leads_dependentsIn.mp (answered.resolve_left fun again => ?_)
    have single := (List.nodup_append'.mp once).2.1
    exact (List.nodup_cons.mp single).1
      (List.mem_append_right between (List.mem_cons_of_mem job again))
  exact Relation.TransGen.head back path

/-! ## The error -/

theorem firstFault_of_build (rejected : build jobs edges = .error error) :
    FirstFault jobs edges error := by
  simp only [build] at rejected
  split at rejected
  · rename_i job rest again
    obtain rfl := Except.error.inj rejected
    obtain ⟨before, after, split, first, -, twice⟩ :=
      head?_repeats.mp (congrArg List.head? again)
    exact .duplicate split first (twice.resolve_left List.not_mem_nil)
  · rename_i none
    have unique := (repeats_eq_nil.mp none).1
    split at rejected
    · rename_i wrong found
      obtain rfl := Except.error.inj rejected
      obtain ⟨before, edge, after, split, first, illFormed⟩ := findSome?_edgeError_eq_some.mp found
      exact .edge unique split first illFormed
    · rename_i fine
      have proper := findSome?_edgeError_eq_none.mp fine
      split at rejected
      · rename_i job found
        obtain rfl := Except.error.inj rejected
        refine .cycle unique proper (path_distinct.mp (path_of_backwardFind unique ?_ found))
        exact fun edge member => (proper edge (mem_distinct.mp member)).target
      · simp at rejected

/-- Whatever is wrong first makes an error. It is the same error, but for the choice of a job on a
cycle. -/
theorem build_of_firstFault (fault : FirstFault jobs edges error) :
    ∃ given, build jobs edges = .error given ∧
      (given = error ∨ ∃ job other, given = .cycle job ∧ error = .cycle other) := by
  cases fault with
  | duplicate split first again =>
    have found := head?_repeats.mpr ⟨_, _, split, first, fun _ _ => List.not_mem_nil, .inr again⟩
    obtain ⟨rest, repeated⟩ := List.head?_eq_some_iff.mp found
    exact ⟨_, by simp only [build, repeated], .inl rfl⟩
  | edge unique split first wrong =>
    have once : repeats [] jobs = [] := repeats_eq_nil.mpr ⟨unique, fun _ _ => List.not_mem_nil⟩
    have found := findSome?_edgeError_eq_some.mpr ⟨_, _, _, split, first, wrong⟩
    exact ⟨_, by simp only [build, once, found], .inl rfl⟩
  | @cycle job unique proper round =>
    cases built : build jobs edges with
    | ok graph => exact absurd round ((acceptable_of_build built).acyclic job)
    | error given =>
      refine ⟨given, rfl, .inr ?_⟩
      cases firstFault_of_build built with
      | duplicate split first again =>
        subst split
        exact absurd again (Countdown.not_mem_of_nodup_append unique)
      | @edge before after edge _ _ split _ wrong =>
        have member : edge ∈ edges := split ▸ List.mem_append_right before List.mem_cons_self
        have fine := edgeError_eq_none_iff_proper.mpr (proper edge member)
        rw [edgeError_eq_some.mpr wrong] at fine
        simp at fine
      | @cycle other => exact ⟨other, job, rfl, rfl⟩

/-- What is wrong first decides how jobs and edges are rejected: the error says what that is, and if
it is a cycle, it names a job on one. Where jobs and edges are read one after the other, the same
error comes up, cycles apart. -/
theorem first_fault_decides_rejection (jobs : List JobId) (edges : List Edge) :
    (∀ error, build jobs edges = .error error → FirstFault jobs edges error ∧
      (Adjacency.read jobs edges = .error error ∨ ∃ job, error = .cycle job ∧
        error.toError = .cycle s!"cycle detected in job DAG involving job '{job.name}'")) ∧
    ∀ error, FirstFault jobs edges error → ∃ given, build jobs edges = .error given ∧
      (given = error ∨ ∃ job other, given = .cycle job ∧ error = .cycle other) := by
  refine ⟨fun error rejected => ⟨firstFault_of_build rejected, ?_⟩, fun _ => build_of_firstFault⟩
  by_cases cyclic : ∃ job, error = .cycle job
  · obtain ⟨job, rfl⟩ := cyclic
    exact .inr ⟨job, rfl, rfl⟩
  · exact .inl (Adjacency.read_eq_error_iff.mpr ⟨rejected, fun job same => cyclic ⟨job, same⟩⟩)

/-- The first job leads to a cycle and the last one away from it; neither is named. -/
theorem circle_between_named :
    let jobs : List JobId := [⟨"a"⟩, ⟨"b"⟩, ⟨"c"⟩, ⟨"d"⟩]
    let edges : List Edge :=
      [⟨⟨"a"⟩, ⟨"b"⟩⟩, ⟨⟨"b"⟩, ⟨"c"⟩⟩, ⟨⟨"c"⟩, ⟨"b"⟩⟩, ⟨⟨"c"⟩, ⟨"d"⟩⟩]
    build jobs edges = .error (.cycle ⟨"c"⟩) ∧ FirstFault jobs edges (.cycle ⟨"c"⟩) := by
  intro jobs edges
  have rejected : build jobs edges = .error (.cycle ⟨"c"⟩) := by cbv
  exact ⟨rejected, ((first_fault_decides_rejection jobs edges).1 _ rejected).1⟩

end

end Precedence.Graph

import Precedence.JobSet
import Precedence.Proofs.Distinct
import Precedence.Proofs.Rejection
/-!
# What a job set is built of

Whatever steps put a set together, it has one job for each id that a step names a job by, in the
order in which the ids were first named, and each job ends as the last step that named it says
(`Built`).
-/

namespace Precedence.JobSet

/-- The jobs that a step names, and how they are to end. -/
def BuildStep.namings : BuildStep → List (JobId × Outcome)
  | .job id => [(id, .success)]
  | .jobs ids => ids.map (·, .success)
  | .failing id message => [(id, .failure (.ofMessage message))]
  | .panicking id message => [(id, .panic message)]
  | .delay _ _ | .waitForStartOf _ _ | .edge _ _ | .addEdges _ => []

/-- The jobs that the steps name one after the other. -/
def namings (steps : List BuildStep) : List (JobId × Outcome) := steps.flatMap BuildStep.namings

/-- A set knows what was named so far. -/
structure Knows (s : JobSet) (named : List (JobId × Outcome)) : Prop where
  order : s.order = distinct (named.map (·.1))
  outcomes : s.outcomes = named.reverse

/-- The jobs that are built when these were named. -/
structure Built (named : List (JobId × Outcome)) (jobs : List ScriptedJob) : Prop where
  /-- One job for each id that was named, in the order of first mention. -/
  ids : FirstOccurrences (jobs.map (·.id)) (named.map (·.1))
  /-- Nothing named the job after what says how it ends. -/
  last : ∀ job ∈ jobs, ∃ before after, named = before ++ (job.id, job.outcome) :: after ∧
    ∀ later ∈ after, later.1 ≠ job.id

variable {s : JobSet} {named : List (JobId × Outcome)}

namespace Knows

theorem withJob (h : s.Knows named) (job : JobId) (outcome : Outcome) :
    (s.withJob job outcome).Knows (named ++ [(job, outcome)]) where
  order := by
    rw [List.map_append, List.map_singleton, distinct_concat, ← h.order]
    simp only [JobSet.withJob, ← mem_distinct (l := named.map (·.1)), ← h.order]
  outcomes := by
    rw [JobSet.withJob, h.outcomes]
    simp

theorem jobs (h : s.Knows named) (ids : List JobId) :
    (s.jobs ids).Knows (named ++ ids.map (·, .success)) := by
  induction ids generalizing s named with
  | nil => simpa [JobSet.jobs] using h
  | cons id ids ih =>
    have rest := ih (h.withJob id .success)
    rw [List.append_assoc, List.singleton_append] at rest
    exact rest

theorem addEdges (h : s.Knows named) (edges : List Edge) : (s.addEdges edges).Knows named := by
  induction edges generalizing s with
  | nil => exact h
  | cons edge edges ih => exact ih ⟨h.order, h.outcomes⟩

theorem apply (h : s.Knows named) (step : BuildStep) :
    (s.apply step).Knows (named ++ step.namings) := by
  cases step with
  | job id => exact h.withJob id .success
  | jobs ids => exact h.jobs ids
  | failing id message => exact h.withJob id _
  | panicking id message => exact h.withJob id _
  | delay | waitForStartOf | edge =>
    rw [BuildStep.namings, List.append_nil]
    exact ⟨h.order, h.outcomes⟩
  | addEdges edges =>
    rw [BuildStep.namings, List.append_nil]
    exact h.addEdges edges

theorem build (h : s.Knows named) : Built named s.build.1 where
  ids := by
    have same : s.build.1.map (·.id) = s.order := by
      rw [JobSet.build, List.map_map]
      exact List.map_id _
    rw [same, h.order]
    exact firstOccurrences_distinct _
  last job member := by
    obtain ⟨id, listed, rfl⟩ := List.mem_map.mp member
    rw [h.order, mem_distinct] at listed
    obtain ⟨naming, first, rfl⟩ := List.mem_map.mp listed
    have found : (named.reverse.lookup naming.1).isSome = true :=
      List.lookup_isSome_iff.mpr ⟨naming, List.mem_reverse.mpr first, by simp⟩
    obtain ⟨outcome, found⟩ := Option.isSome_iff_exists.mp found
    obtain ⟨later, earlier, split, other⟩ := List.lookup_eq_some_iff.mp found
    refine ⟨earlier.reverse, later.reverse, ?_, ?_⟩
    · have whole := congrArg List.reverse split
      rw [List.reverse_reverse, List.reverse_append, List.reverse_cons, List.append_assoc,
        List.singleton_append] at whole
      simpa only [scripted, h.outcomes, found, Option.getD_some] using whole
    · intro naming' inside
      have apart := other naming' (List.mem_reverse.mp inside)
      exact (bne_iff_ne.mp apart).symm

end Knows

/-- A set that is put together from nothing knows what the steps named. -/
theorem knows_assemble (steps : List BuildStep) : (assemble steps).Knows (namings steps) := by
  suffices kept : ∀ {s : JobSet} {named}, s.Knows named →
      (steps.foldl apply s).Knows (named ++ namings steps) by
    exact @kept {} [] ⟨rfl, rfl⟩
  induction steps with
  | nil =>
    intro s named h
    simpa [namings] using h
  | cons step steps ih =>
    intro s named h
    have rest := ih (h.apply step)
    rw [List.append_assoc] at rest
    exact rest

/-- No scheduler for jobs that were built finds one of them twice. -/
theorem Built.make_ne_duplicate {jobs : List ScriptedJob} (built : Built named jobs)
    (edges : List Edge) (workers : Nat) (job : JobId) :
    Scheduler.make (jobs.map (·.id)) edges workers ≠ .error (.duplicateJob job) := by
  intro rejected
  have once := built.ids.nodup
  rw [Scheduler.make] at rejected
  cases given : Graph.build (jobs.map (·.id)) edges with
  | ok graph => simp [given, Except.map] at rejected
  | error error =>
    obtain rfl : error = .duplicateJob job := by simpa [given, Except.map] using rejected
    cases Graph.firstFault_of_build given with
    | duplicate split first again =>
      rw [split] at once
      exact Countdown.not_mem_of_nodup_append once again
    | edge unique split first wrong => cases wrong

end Precedence.JobSet

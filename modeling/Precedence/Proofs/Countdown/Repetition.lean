import Mathlib.Data.List.Induction
import Mathlib.Data.List.Perm.Subperm
import Precedence.Proofs.Countdown.Series
/-!
# Repeated reports

A report asks nothing about the job it names, so a job may be reported twice, and so may one that is
no job of the graph. What a report does then follows from the counters alone (`Effect`): it counts
every dependent down, or it stops at the first one whose counter stands at zero and leaves those
before it counted down. A counter that has reached zero stays there, so no job is released twice
(`report_stops_at_zero`).

The counters do not know which dependencies they still count. A repeated report is detected in every
series just if some dependent waits for the repeated job alone (`repeat_detected_iff`). Otherwise it
may stand in for the report of another dependency (`diamond_released_early`).
-/

namespace Precedence

namespace Countdown

/-- From one countdown to another the counters of some jobs go down by one, and no others move. -/
structure CountsDown (jobs : List JobId) (c d : Countdown) : Prop where
  inside : ∀ v ∈ jobs, ∃ n, c.pending v = some (n + 1) ∧ d.pending v = some n
  outside : ∀ v, v ∉ jobs → d.pending v = c.pending v

/-- Every job of the graph has a counter, and nothing else has one. -/
structure Complete (c : Countdown) : Prop where
  sound : c.graph.Sound
  keys : c.counts.map (·.1) = c.graph.jobs

/-- What a report does: it counts every dependent down, or it stops at the first dependent whose
counter stands at zero. -/
inductive Effect (c : Countdown) (job : JobId) : Prop where
  | counts (counted : CountsDown (c.graph.dependents job) c (c.finish job))
      (released : c.released job =
        .ok ((c.graph.dependents job).filter fun v => c.pending v = some 1))
  | stops {first rest : List JobId} {v : JobId}
      (split : c.graph.dependents job = first ++ v :: rest) (zero : c.pending v = some 0)
      (counted : CountsDown first c (c.finish job))
      (released : c.released job = .error (.belowZero v job))

section
variable {c : Countdown} {job u v : JobId} {n : Nat}

/-! ## One report -/

/-- Dependents that follow others which were all counted down. -/
theorem countDown_append {counts : List (JobId × Nat)} {first ready : List JobId}
    (released : (countDown job counts first).released = .ok ready) (rest : List JobId) :
    (countDown job counts (first ++ rest)).counts =
        (countDown job (countDown job counts first).counts rest).counts ∧
      (countDown job counts (first ++ rest)).released =
        (countDown job (countDown job counts first).counts rest).released.map (ready ++ ·) := by
  induction first generalizing counts ready with
  | nil =>
    obtain rfl : [] = ready := Except.ok.inj released
    cases result : (countDown job counts rest).released <;> simp [countDown, result, Except.map]
  | cons dependent others ih =>
    cases stands : counts.lookup dependent with
    | none => simp [countDown, stands] at released
    | some n =>
      cases n with
      | zero => simp [countDown, stands] at released
      | succ n =>
        simp only [countDown, stands, List.cons_append] at released ⊢
        cases before : (countDown job (setCount counts dependent n) others).released with
        | error error => simp [before, Except.map] at released
        | ok found =>
          rw [before] at released
          obtain rfl := Except.ok.inj released
          obtain ⟨counted, later⟩ := ih before
          refine ⟨counted, ?_⟩
          rw [later]
          cases (countDown job (countDown job (setCount counts dependent n) others).counts
            rest).released
          · rfl
          · by_cases zero : n = 0 <;> simp [Except.map, zero]

/-- A report stops at a dependent whose counter stands at zero, if none before it does. -/
theorem countDown_of_zero (job : JobId) {counts : List (JobId × Nat)} {first rest : List JobId}
    (distinct : (first ++ v :: rest).Nodup) {left : JobId → Nat}
    (pos : ∀ w ∈ first, counts.lookup w = some (left w + 1)) (zero : counts.lookup v = some 0) :
    (countDown job counts (first ++ v :: rest)).released = .error (.belowZero v job) ∧
      ∀ w, (countDown job counts (first ++ v :: rest)).counts.lookup w =
        if w ∈ first then some (left w) else counts.lookup w := by
  obtain ⟨once, -, apart⟩ := List.nodup_append'.mp distinct
  have absent : v ∉ first := fun member => apart member List.mem_cons_self
  obtain ⟨released, counted⟩ := countDown_of_pos job once pos
  obtain ⟨counts', released'⟩ := countDown_append released (v :: rest)
  have stands : (countDown job counts first).counts.lookup v = some 0 := by
    rw [counted v, if_neg absent]
    exact zero
  rw [counts', released']
  simp only [countDown, stands]
  exact ⟨rfl, counted⟩

namespace CountsDown

theorem of_lookup {d : Countdown} {jobs : List JobId} {left : JobId → Nat}
    (before : ∀ v ∈ jobs, c.pending v = some (left v + 1))
    (after : ∀ v, d.pending v = if v ∈ jobs then some (left v) else c.pending v) :
    CountsDown jobs c d where
  inside v member := ⟨left v, before v member, (after v).trans (if_pos member)⟩
  outside v absent := (after v).trans (if_neg absent)

theorem pending_ne_zero {d : Countdown} {jobs : List JobId} (counted : CountsDown jobs c d)
    (member : v ∈ jobs) : c.pending v ≠ some 0 := by
  obtain ⟨n, before, -⟩ := counted.inside v member
  simp [before]

end CountsDown

namespace Complete

variable (complete : c.Complete)
include complete

theorem pending_isSome : (c.pending v).isSome ↔ v ∈ c.graph.jobs := by
  rw [← complete.keys, pending, List.lookup_isSome_iff, List.mem_map]
  constructor
  · rintro ⟨entry, member, same⟩
    exact ⟨entry, member, (beq_iff_eq.mp same).symm⟩
  · rintro ⟨entry, member, rfl⟩
    exact ⟨entry, member, beq_self_eq_true _⟩

theorem finish (job : JobId) : (c.finish job).Complete :=
  ⟨complete.sound, (keys_countDown ..).trans complete.keys⟩

theorem finishAll (jobs : List JobId) : (c.finishAll jobs).Complete := by
  induction jobs generalizing c with
  | nil => exact complete
  | cons job rest ih => exact ih (complete.finish job)

theorem exists_pending_of_dependent (dependent : v ∈ c.graph.dependents job) :
    ∃ n, c.pending v = some n :=
  Option.isSome_iff_exists.mp
    (complete.pending_isSome.mpr (complete.sound.mem_jobs_of_dependent dependent))

/-- Counters of dependents that do not stand at zero can go down by one. -/
theorem exists_left {first : List JobId} (inside : first ⊆ c.graph.dependents job)
    (pos : ∀ w ∈ first, c.pending w ≠ some 0) :
    ∃ left : JobId → Nat, ∀ w ∈ first, c.pending w = some (left w + 1) := by
  refine ⟨fun w => (c.pending w).getD 0 - 1, fun w member => ?_⟩
  obtain ⟨n, stands⟩ := complete.exists_pending_of_dependent (inside member)
  have positive : n ≠ 0 := fun zero => pos w member (zero ▸ stands)
  show c.pending w = some ((c.pending w).getD 0 - 1 + 1)
  rw [stands, Option.getD_some, Nat.sub_add_cancel (Nat.pos_of_ne_zero positive)]

/-- Every report does one of two things. -/
theorem effect (job : JobId) : Effect c job := by
  have distinct := complete.sound.nodup_dependents job
  cases search : (c.graph.dependents job).find? (c.pending · = some 0) with
  | none =>
    have pos : ∀ w ∈ c.graph.dependents job, c.pending w ≠ some 0 := by
      simpa using search
    obtain ⟨left, stand⟩ := complete.exists_left (List.Subset.refl _) pos
    obtain ⟨released, counted⟩ := countDown_of_pos job distinct stand
    apply Effect.counts
    · exact .of_lookup stand counted
    · refine released.trans (congrArg Except.ok (List.filter_congr fun w member => ?_))
      simp [stand w member]
  | some v =>
    obtain ⟨zero, first, rest, split, before⟩ := List.find?_eq_some_iff_append.mp search
    have stands : c.pending v = some 0 := of_decide_eq_true zero
    have pos : ∀ w ∈ first, c.pending w ≠ some 0 := by simpa using before
    have inside : first ⊆ c.graph.dependents job := split ▸ List.subset_append_left ..
    obtain ⟨left, stand⟩ := complete.exists_left inside pos
    rw [split] at distinct
    obtain ⟨released, counted⟩ := countDown_of_zero job distinct stand stands
    rw [← split] at released counted
    exact .stops split stands (.of_lookup stand counted) released

end Complete

theorem complete_start {graph : Graph} (sound : graph.Sound) : (start graph).Complete :=
  ⟨sound, (counts_start graph).keys⟩

namespace Effect

variable (effect : Effect c job)
include effect

theorem of_ok {ready : List JobId} (succeeded : c.released job = .ok ready) :
    CountsDown (c.graph.dependents job) c (c.finish job) ∧
      ready = (c.graph.dependents job).filter fun v => c.pending v = some 1 := by
  cases effect with
  | counts counted released =>
    rw [released] at succeeded
    exact ⟨counted, (Except.ok.inj succeeded).symm⟩
  | stops _ _ _ failed =>
    rw [failed] at succeeded
    cases succeeded

theorem of_error {error : CountdownError} (failed : c.released job = .error error) :
    ∃ first v rest, c.graph.dependents job = first ++ v :: rest ∧ c.pending v = some 0 ∧
      error = .belowZero v job ∧ CountsDown first c (c.finish job) := by
  cases effect with
  | counts _ released =>
    rw [released] at failed
    cases failed
  | @stops first rest v split zero counted released =>
    rw [released] at failed
    exact ⟨first, v, rest, split, zero, (Except.error.inj failed).symm, counted⟩

/-- A report fails just if the counter of some dependent stands at zero. -/
theorem failed_iff : (∃ error, c.released job = .error error) ↔
    ∃ v ∈ c.graph.dependents job, c.pending v = some 0 := by
  constructor
  · rintro ⟨error, failed⟩
    obtain ⟨first, v, rest, split, zero, -, -⟩ := effect.of_error failed
    exact ⟨v, split ▸ List.mem_append_right first List.mem_cons_self, zero⟩
  · rintro ⟨v, dependent, zero⟩
    cases result : c.released job with
    | error error => exact ⟨error, rfl⟩
    | ok ready => exact absurd zero ((effect.of_ok result).1.pending_ne_zero dependent)

/-- A counter stays where it is, or goes down by one. -/
theorem pending_finish (stands : c.pending v = some n) :
    (c.finish job).pending v = some n ∨
      v ∈ c.graph.dependents job ∧ ∃ m, n = m + 1 ∧ (c.finish job).pending v = some m := by
  have counted : ∃ jobs, jobs ⊆ c.graph.dependents job ∧ CountsDown jobs c (c.finish job) := by
    cases effect with
    | counts counted => exact ⟨_, List.Subset.refl _, counted⟩
    | stops split _ counted => exact ⟨_, split ▸ List.subset_append_left .., counted⟩
  obtain ⟨jobs, inside, counted⟩ := counted
  by_cases member : v ∈ jobs
  · obtain ⟨m, before, after⟩ := counted.inside v member
    rw [stands] at before
    exact .inr ⟨inside member, m, Option.some.inj before, after⟩
  · exact .inl ((counted.outside v member).trans stands)

/-- What a report releases: the jobs whose counters it takes from one to zero. -/
theorem mem_released_iff {ready : List JobId} (released : c.released job = .ok ready) :
    v ∈ ready ↔ c.pending v = some 1 ∧ (c.finish job).pending v = some 0 := by
  obtain ⟨counted, rfl⟩ := effect.of_ok released
  rw [List.mem_filter, decide_eq_true_eq]
  constructor
  · rintro ⟨dependent, one⟩
    obtain ⟨n, before, after⟩ := counted.inside v dependent
    rw [one] at before
    obtain rfl : n = 0 := by simpa using before
    exact ⟨one, after⟩
  · rintro ⟨one, zero⟩
    refine ⟨?_, one⟩
    by_contra absent
    rw [counted.outside v absent, one] at zero
    cases zero

theorem of_mem_released (released : v ∈ (c.released job).toOption.getD []) :
    c.pending v = some 1 ∧ (c.finish job).pending v = some 0 := by
  cases result : c.released job with
  | error error => simp [result, Except.toOption] at released
  | ok ready =>
    rw [result] at released
    exact (effect.mem_released_iff result).mp released

theorem nodup_released (sound : c.graph.Sound) :
    ((c.released job).toOption.getD []).Nodup := by
  cases result : c.released job with
  | error error => exact List.nodup_nil
  | ok ready =>
    obtain ⟨-, rfl⟩ := effect.of_ok result
    exact (sound.nodup_dependents job).filter _

end Effect

/-! ## A series of reports -/

theorem finishAll_append (c : Countdown) (jobs others : List JobId) :
    c.finishAll (jobs ++ others) = (c.finishAll jobs).finishAll others :=
  List.foldl_append

namespace Complete

variable {reports : List JobId} (complete : c.Complete)
include complete

/-- Counters never go up. -/
theorem pending_finishAll (stands : c.pending v = some n) (reports : List JobId) :
    ∃ m ≤ n, (c.finishAll reports).pending v = some m := by
  induction reports generalizing c n with
  | nil => exact ⟨n, Nat.le_refl n, stands⟩
  | cons job rest ih =>
    obtain same | ⟨-, m, rfl, less⟩ := (complete.effect job).pending_finish stands
    · exact ih (complete.finish job) same
    · obtain ⟨k, le, after⟩ := ih (complete.finish job) less
      exact ⟨k, by omega, after⟩

/-- A job whose counter has reached zero is not released any more. -/
theorem pending_ne_zero_of_released (released : v ∈ c.releasedAll reports) :
    c.pending v ≠ some 0 := by
  induction reports generalizing c with
  | nil => cases released
  | cons job rest ih =>
    intro zero
    obtain now | later := List.mem_append.mp released
    · have one := ((complete.effect job).of_mem_released now).1
      rw [zero] at one
      cases one
    · obtain ⟨m, le, after⟩ := complete.pending_finishAll zero [job]
      obtain rfl : m = 0 := by omega
      exact ih (complete.finish job) later after

/-- No job is released twice, whatever is reported. -/
theorem nodup_releasedAll (reports : List JobId) : (c.releasedAll reports).Nodup := by
  induction reports generalizing c with
  | nil => exact List.nodup_nil
  | cons job rest ih =>
    have effect := complete.effect job
    refine List.Nodup.append (effect.nodup_released complete.sound) (ih (complete.finish job)) ?_
    intro v now later
    exact (complete.finish job).pending_ne_zero_of_released later (effect.of_mem_released now).2

end Complete
end

section
variable {graph : Graph} {before reports : List JobId} {u v : JobId} {n : Nat}
  (sound : graph.Sound)
include sound

theorem complete_finishAll (reports : List JobId) : ((start graph).finishAll reports).Complete :=
  (complete_start sound).finishAll reports

theorem pending_start (member : v ∈ graph.jobs) :
    (start graph).pending v = some (graph.indegree v) := by
  simpa [finishAll, Graph.indegree] using
    (pending_finishAll sound List.nodup_nil v).trans (if_pos member)

/-- A counter never stands above the number of dependencies. -/
theorem pending_le_indegree (stands : ((start graph).finishAll reports).pending v = some n) :
    n ≤ graph.indegree v := by
  have member : v ∈ graph.jobs := by
    have listed := (complete_finishAll sound reports).pending_isSome (v := v)
    rw [finishAll_graph, start_graph] at listed
    exact listed.mp (stands ▸ rfl)
  obtain ⟨m, le, after⟩ :=
    (complete_start sound).pending_finishAll (pending_start sound member) reports
  rw [stands] at after
  obtain rfl := Option.some.inj after
  exact le

/-! ## Repetitions that are detected, and others -/

/-- After a report of a job for which alone some dependent waits, the counter of a dependent stands
at zero: of that one, or of the one where the report stopped. -/
theorem zero_of_reported (alone : graph.dependencies v = [u]) (reports : List JobId) :
    ∃ w ∈ graph.dependents u, ((start graph).finishAll reports |>.finish u).pending w = some 0 := by
  have dependent : v ∈ graph.dependents u := by
    rw [Graph.mem_dependents, alone]
    exact List.mem_cons_self
  have effect := (complete_finishAll sound reports).effect u
  cases effect with
  | counts counted released =>
    rw [finishAll_graph, start_graph] at counted
    obtain ⟨n, stands, after⟩ := counted.inside v dependent
    have le := pending_le_indegree sound stands
    rw [Graph.indegree, alone, List.length_singleton] at le
    obtain rfl : n = 0 := by omega
    exact ⟨v, dependent, after⟩
  | @stops first rest w split zero counted released =>
    rw [finishAll_graph, start_graph] at split
    refine ⟨w, split ▸ List.mem_append_right first List.mem_cons_self, ?_⟩
    rw [counted.outside w, zero]
    exact fun inside => counted.pending_ne_zero inside zero

/-- So every later report of the job fails. -/
theorem repeat_fails (alone : graph.dependencies v = [u]) (before between : List JobId) :
    ∃ error, ((start graph).finishAll (before ++ u :: between)).released u = .error error := by
  obtain ⟨w, dependent, zero⟩ := zero_of_reported sound alone before
  have complete := (complete_finishAll sound before).finish u
  obtain ⟨m, le, after⟩ := complete.pending_finishAll zero between
  obtain rfl : m = 0 := by omega
  rw [((complete_finishAll sound _).effect u).failed_iff, finishAll_graph, start_graph,
    finishAll_append]
  exact ⟨w, dependent, after⟩

/-- If every dependent waits for others too, a job can be reported twice in a row. -/
theorem repeat_succeeds (others : ∀ v ∈ graph.dependents u, graph.dependencies v ≠ [u]) :
    ¬ ∃ error, ((start graph).finishAll [u]).released u = .error error := by
  have stand : ∀ v ∈ graph.dependents u, ∃ n, (start graph).pending v = some (n + 2) := by
    intro v dependent
    have several : 2 ≤ (graph.dependencies v).length := by
      have dependency := Graph.mem_dependents.mp dependent
      match depends : graph.dependencies v, dependency, others v dependent with
      | [w], member, differ =>
        obtain rfl := List.mem_singleton.mp member
        exact absurd rfl differ
      | _ :: _ :: _, _, _ => simp
    refine ⟨graph.indegree v - 2, ?_⟩
    rw [pending_start sound (sound.mem_jobs_of_dependent dependent), Graph.indegree,
      Nat.sub_add_cancel several]
  rw [((complete_finishAll sound [u]).effect u).failed_iff, finishAll_graph, start_graph]
  rintro ⟨v, dependent, zero⟩
  obtain ⟨n, before⟩ := stand v dependent
  have zero : ((start graph).finish u).pending v = some 0 := zero
  obtain same | ⟨-, m, less, after⟩ := ((complete_start sound).effect u).pending_finish before
  · rw [zero] at same
    cases same
  · rw [zero] at after
    obtain rfl : m = 0 := (Option.some.inj after).symm
    omega

/-- Every dependency of a job is counted still, or was reported. -/
theorem indegree_le (stands : ((start graph).finishAll reports).pending v = some n) :
    graph.indegree v ≤ n + reports.countP (· ∈ graph.dependencies v) := by
  induction reports using List.reverseRecOn generalizing n with
  | nil =>
    have member : v ∈ graph.jobs := (complete_start sound).pending_isSome.mp (stands ▸ rfl)
    have begins : some n = some (graph.indegree v) := stands.symm.trans (pending_start sound member)
    obtain rfl := Option.some.inj begins
    exact Nat.le_add_right ..
  | append_singleton earlier job ih =>
    have complete := complete_finishAll sound earlier
    rw [finishAll_append] at stands
    change (((start graph).finishAll earlier).finish job).pending v = some n at stands
    have listed : (((start graph).finishAll earlier).pending v).isSome :=
      complete.pending_isSome.mpr ((complete.finish job).pending_isSome.mp (stands ▸ rfl))
    obtain ⟨m, before⟩ := Option.isSome_iff_exists.mp listed
    have credit := ih before
    rw [List.countP_append, List.countP_singleton]
    obtain same | ⟨dependent, k, rfl, less⟩ := (complete.effect job).pending_finish before
    · rw [stands] at same
      obtain rfl := Option.some.inj same
      omega
    · rw [stands] at less
      obtain rfl := Option.some.inj less
      rw [finishAll_graph, start_graph] at dependent
      rw [if_pos (decide_eq_true (Graph.mem_dependents.mp dependent))]
      omega

/-- A job that is released before all of its dependencies were reported owes it to one that was
reported twice. -/
theorem repeated_of_released_early {job : JobId} {ready : List JobId}
    (released : ((start graph).finishAll before).released job = .ok ready) (member : v ∈ ready)
    (dependency : u ∈ graph.dependencies v) (missing : u ∉ before ++ [job]) :
    ∃ w ∈ graph.dependencies v, 2 ≤ (before ++ [job]).count w := by
  have complete := complete_finishAll sound before
  have zero := (((complete.effect job).mem_released_iff released).mp member).2
  have reached : (start graph).finishAll (before ++ [job]) =
      ((start graph).finishAll before).finish job := finishAll_append ..
  have credit := indegree_le sound (reached ▸ zero)
  by_contra once
  -- without repetitions, the reports that count for the job are among its other dependencies
  have distinct : ((before ++ [job]).filter (· ∈ graph.dependencies v)).Nodup := by
    rw [List.nodup_iff_count_le_one]
    intro w
    by_cases inside : w ∈ graph.dependencies v
    · have le : ¬ 2 ≤ (before ++ [job]).count w := fun twice => once ⟨w, inside, twice⟩
      have fewer := (List.filter_sublist (p := (· ∈ graph.dependencies v))
        (l := before ++ [job])).count_le w
      omega
    · rw [List.count_eq_zero_of_not_mem]
      · exact Nat.zero_le 1
      · simp [inside]
  have inside : (before ++ [job]).filter (· ∈ graph.dependencies v) ⊆
      (graph.dependencies v).erase u := by
    intro w counted
    obtain ⟨reported, depends⟩ := List.mem_filter.mp counted
    have differ : w ≠ u := fun same => missing (same ▸ reported)
    exact (List.mem_erase_of_ne differ).mpr (of_decide_eq_true depends)
  have fewer := (distinct.subperm inside).length_le
  have shorter := List.length_erase_of_mem dependency
  have some := List.length_pos_of_mem dependency
  rw [List.countP_eq_length_filter, Graph.indegree] at credit
  omega

end

/-- Jobs may be reported in any order, repeatedly, and whether they are jobs of the graph or not. A
report fails just if the counter of some dependent stands at zero. Then it names the first such
dependent, has counted down the dependents before it by one, and has moved no other counter. One
that succeeds counts down every dependent by one, and releases the jobs whose counters it takes from
one to zero. Counters never go up, and a series releases no job twice. -/
theorem report_stops_at_zero {jobs : List JobId} {edges : List Edge} {graph : Graph}
    (built : Graph.build jobs edges = .ok graph) (reports : List JobId) :
    (∀ before job after, reports = before ++ job :: after →
      let c := (start graph).finishAll before
      ((∃ error, c.released job = .error error) ↔
        ∃ v ∈ graph.dependents job, c.pending v = some 0) ∧
      (∀ error, c.released job = .error error →
        ∃ first v rest, graph.dependents job = first ++ v :: rest ∧
          (∀ w ∈ first, c.pending w ≠ some 0) ∧ c.pending v = some 0 ∧
          error = .belowZero v job ∧ CountsDown first c (c.finish job)) ∧
      (∀ ready, c.released job = .ok ready →
        CountsDown (graph.dependents job) c (c.finish job) ∧
          ∀ v, v ∈ ready ↔ c.pending v = some 1 ∧ (c.finish job).pending v = some 0)) ∧
    (∀ before after, reports = before ++ after → ∀ v,
      (((start graph).finishAll before).pending v = none ↔ v ∉ jobs) ∧
      ∀ n, ((start graph).finishAll before).pending v = some n →
        ∃ m ≤ n, ((start graph).finishAll reports).pending v = some m) ∧
    ((start graph).releasedAll reports).Nodup := by
  have sound := Graph.sound_of_build built
  obtain rfl := Graph.jobs_of_build built
  refine ⟨?_, ?_, (complete_start sound).nodup_releasedAll reports⟩
  · intro before job after _ c
    have effect : Effect c job := (complete_finishAll sound before).effect job
    have same : c.graph = graph := finishAll_graph ..
    clear_value c
    subst same
    refine ⟨effect.failed_iff, ?_, ?_⟩
    · intro error failed
      obtain ⟨first, v, rest, split, zero, named, counted⟩ := effect.of_error failed
      exact ⟨first, v, rest, split, fun w => counted.pending_ne_zero, zero, named, counted⟩
    · intro ready succeeded
      obtain ⟨counted, -⟩ := effect.of_ok succeeded
      exact ⟨counted, fun v => effect.mem_released_iff succeeded⟩
  · rintro before after rfl v
    have complete := complete_finishAll sound before
    constructor
    · have listed := complete.pending_isSome (v := v)
      rw [finishAll_graph, start_graph] at listed
      rw [← listed, Bool.not_eq_true, Option.isSome_eq_false_iff, Option.isNone_iff_eq_none]
    · intro n stands
      rw [finishAll_append]
      exact complete.pending_finishAll stands after

/-- Two jobs that precede a third, and a fourth one that only the first of them precedes. -/
def overlap : Graph where
  jobs := [⟨"1"⟩, ⟨"2"⟩, ⟨"3"⟩, ⟨"4"⟩]
  edges := [⟨⟨"1"⟩, ⟨"3"⟩⟩, ⟨⟨"2"⟩, ⟨"3"⟩⟩, ⟨⟨"1"⟩, ⟨"4"⟩⟩]
  order := [⟨"2"⟩, ⟨"1"⟩, ⟨"3"⟩, ⟨"4"⟩]

/-- The second report of the first job stops at the fourth job. But it has counted the third one
down to zero, which nothing releases any more. -/
theorem overlap_reported_twice :
    let c := (start overlap).finishAll [⟨"1"⟩]
    let reports : List JobId := [⟨"1"⟩, ⟨"1"⟩, ⟨"5"⟩, ⟨"2"⟩]
    CountsDown [⟨"3"⟩] c (c.finish ⟨"1"⟩) ∧ (c.finish ⟨"1"⟩).pending ⟨"3"⟩ = some 0 ∧
      (start overlap).releasedAll reports = [⟨"4"⟩] ∧
      ((start overlap).releasedAll reports).Nodup := by
  have built : Graph.build overlap.jobs overlap.edges = .ok overlap := by cbv
  obtain ⟨each, -, once⟩ := report_stops_at_zero built [⟨"1"⟩, ⟨"1"⟩, ⟨"5"⟩, ⟨"2"⟩]
  obtain ⟨-, failed, -⟩ := each [⟨"1"⟩] ⟨"1"⟩ [⟨"5"⟩, ⟨"2"⟩] rfl
  obtain ⟨first, v, rest, split, -, -, same, counted⟩ := failed (.belowZero ⟨"4"⟩ ⟨"1"⟩) rfl
  obtain ⟨rfl, -⟩ := CountdownError.belowZero.inj same
  have dependents : [⟨"3"⟩, ⟨"4"⟩] = first ++ ⟨"4"⟩ :: rest := split
  refine ⟨?_, rfl, rfl, once⟩
  cases first with
  | nil => simp at dependents
  | cons w others =>
    obtain ⟨rfl, dependents⟩ := List.cons.inj dependents
    cases others with
    | nil => exact counted
    | cons x more => simp at dependents

/-- A repeated report of a job is detected in every series just if some dependent waits for that job
alone. Elsewhere it may pass for a report of another dependency, and nothing else lets a job be
released before all of its dependencies were reported. -/
theorem repeat_detected_iff {jobs : List JobId} {edges : List Edge} {graph : Graph}
    (built : Graph.build jobs edges = .ok graph) :
    (∀ u, (∀ before between, ∃ error,
        ((start graph).finishAll (before ++ u :: between)).released u = .error error) ↔
      ∃ v ∈ graph.dependents u, graph.dependencies v = [u]) ∧
    ∀ before job ready, ((start graph).finishAll before).released job = .ok ready →
      ∀ v ∈ ready, ∀ u ∈ graph.dependencies v, u ∉ before ++ [job] →
        ∃ w ∈ graph.dependencies v, 2 ≤ (before ++ [job]).count w := by
  have sound := Graph.sound_of_build built
  refine ⟨fun u => ⟨fun detected => ?_, ?_⟩, ?_⟩
  · by_contra shared
    refine repeat_succeeds sound (u := u) ?_ (detected [] [])
    intro v dependent alone
    exact shared ⟨v, dependent, alone⟩
  · rintro ⟨v, -, alone⟩
    exact repeat_fails sound alone
  · intro before job ready released v member u dependency missing
    exact repeated_of_released_early sound released member dependency missing

/-- In a diamond the jobs at its ends wait for one dependency only, or have no dependents, so the
first job cannot be reported twice, and the second one can. -/
theorem diamond_repeats :
    (∀ before between, ∃ error,
      ((start .diamond).finishAll (before ++ ⟨"1"⟩ :: between)).released ⟨"1"⟩ = .error error) ∧
    ¬ ∀ before between, ∃ error,
      ((start .diamond).finishAll (before ++ ⟨"2"⟩ :: between)).released ⟨"2"⟩ = .error error := by
  obtain ⟨detected, -⟩ := repeat_detected_iff Graph.build_diamond
  exact ⟨(detected ⟨"1"⟩).mpr (by decide), fun all => absurd ((detected ⟨"2"⟩).mp all) (by decide)⟩

/-- The second report of a job releases the last one, although the third was never reported. -/
theorem diamond_released_early :
    Graph.build Graph.diamond.jobs Graph.diamond.edges = .ok .diamond ∧
      Graph.diamond.dependents ⟨"2"⟩ = [⟨"4"⟩] ∧
      ((start .diamond).finishAll [⟨"2"⟩]).released ⟨"2"⟩ = .ok [⟨"4"⟩] ∧
      ⟨"3"⟩ ∈ Graph.diamond.dependencies ⟨"4"⟩ :=
  ⟨Graph.build_diamond, by decide, by rfl, by decide⟩

end Countdown

end Precedence

import Precedence.Console
import Precedence.Proofs.Scheduler
import Precedence.Proofs.Pool.Narration
/-!
# What a run shows

A console numbers the lines of finished jobs from one up, without a gap (`countP_printAll`). In a
run that has returned it has printed one such line for each job that was started. So the numbers go
up to the number of started jobs, and to the number of all jobs in a run that succeeds
(`observer_follows_run`). Workers may print in another order than they were numbered, so this is
said of every arrangement of the lines.
-/

namespace Precedence

/-- What a callback means for the progress of a run in which the bodies take the given times. -/
def Callback.timed (elapsed : JobId → Nat) (worker : Nat) : Callback → Progress
  | started job => .started job worker
  | succeeded job => .succeeded job (elapsed job)
  | failed failure => .failed failure

/-- Whether a callback is the last one about its job. -/
def Callback.isLast : Callback → Bool
  | started _ => false
  | succeeded _ | failed _ => true

/-- Whether a line is about a job that is finished. -/
def Progress.isLast : Progress → Bool
  | started _ _ => false
  | succeeded _ _ | failed _ => true

theorem Callback.isLast_timed (elapsed : JobId → Nat) (worker : Nat) (callback : Callback) :
    (callback.timed elapsed worker).isLast = callback.isLast := by
  cases callback <;> rfl

theorem Plan.isLast_lastCall (plan : Plan) (job : JobId) : (plan.lastCall job).isLast = true := by
  unfold lastCall
  split <;> rfl

namespace Console

/-- A line that begins with a number out of a total. -/
def Numbered (total n : Nat) (line : String) : Prop := s!"[{n}/{total}] ".toList <+: line.toList

instance (total n : Nat) (line : String) : Decidable (Numbered total n line) :=
  inferInstanceAs (Decidable (_ <+: _))

/-! ## The number of a line -/

theorem takeWhile_toDigits (n : Nat) (rest : List Char) :
    (Nat.toDigits 10 n ++ '/' :: rest).takeWhile Char.isDigit = Nat.toDigits 10 n := by
  rw [List.takeWhile_append_of_pos fun c member =>
    Nat.isDigit_of_mem_toDigits (by decide) (by decide) member]
  simp

/-- A number ends at the stroke that follows it. -/
theorem eq_of_toDigits_append {a b : Nat} {x y : List Char}
    (h : Nat.toDigits 10 a ++ '/' :: x = Nat.toDigits 10 b ++ '/' :: y) : a = b := by
  have same : Nat.toDigits 10 a = Nat.toDigits 10 b := by
    rw [← takeWhile_toDigits a x, h, takeWhile_toDigits]
  calc
    a = Nat.ofDigitChars 10 (Nat.toDigits 10 a) 0 := Nat.ofDigitChars_ten_toDigits.symm
    _ = b := by rw [same, Nat.ofDigitChars_ten_toDigits]

theorem numbered_iff {total m n : Nat} {line : String} {rest : List Char}
    (begins : line.toList = s!"[{m}/{total}] ".toList ++ rest) : Numbered total n line ↔ n = m := by
  constructor
  · rintro ⟨after, split⟩
    simp only [begins, String.toList_append, List.append_assoc, List.append_cancel_left_eq,
      Nat.toString_eq_repr, Nat.toList_repr] at split
    exact eq_of_toDigits_append split
  · rintro rfl
    exact ⟨rest, begins.symm⟩

theorem numbered_print (c : Console) (p : Progress) (n : Nat) :
    Numbered c.total n (c.print p).1 ↔ p.isLast = true ∧ n = c.finished + 1 := by
  cases p with
  | started job worker =>
    have blank : ¬ Numbered c.total n (c.print (.started job worker)).1 := by
      rintro ⟨after, split⟩
      simp only [print, String.toList_append, List.append_assoc] at split
      have first : some '[' = some ' ' := congrArg List.head? split
      simp at first
    simp [blank, Progress.isLast]
  | succeeded job microseconds =>
    have begins : (c.print (.succeeded job microseconds)).1.toList =
        s!"[{c.finished + 1}/{c.total}] ".toList ++
          s!"ok    {job.name} ({microseconds / 1000} ms)\n".toList := by
      simp only [print, String.toList_append, List.append_assoc]
      rfl
    simp [numbered_iff begins, Progress.isLast]
  | failed failure =>
    have begins : (c.print (.failed failure)).1.toList =
        s!"[{c.finished + 1}/{c.total}] ".toList ++
          s!"FAIL  {failure.job.name}: {failure.error.full}\n".toList := by
      simp only [print, String.toList_append, List.append_assoc]
      rfl
    simp [numbered_iff begins, Progress.isLast]

theorem total_print (c : Console) (p : Progress) : (c.print p).2.total = c.total := by
  cases p <;> rfl

theorem finished_print (c : Console) (p : Progress) :
    (c.print p).2.finished = c.finished + if p.isLast then 1 else 0 := by
  cases p <;> rfl

/-- The lines of finished jobs are numbered one after the other. -/
theorem countP_printAll (c : Console) (progress : List Progress) (n : Nat) :
    (c.printAll progress).countP (Numbered c.total n ·) =
      if c.finished < n ∧ n ≤ c.finished + progress.countP Progress.isLast then 1 else 0 := by
  induction progress generalizing c with
  | nil =>
    have outside : ¬ (c.finished < n ∧ n ≤ c.finished + 0) := by omega
    simp only [printAll, List.countP_nil]
    exact (if_neg outside).symm
  | cons p rest ih =>
    have after := ih (c.print p).2
    rw [total_print, finished_print] at after
    simp only [printAll, List.countP_cons, after, decide_eq_true_eq, numbered_print]
    cases p.isLast with
    | false => simp
    | true =>
      simp only [true_and, if_true]
      split_ifs <;> omega

end Console

/-! ## The lines of a run -/

/-- The jobs of whose ends the observer was told, in order. -/
def closings (history : List Event) : List JobId :=
  ((calls history).filter (·.2.isLast)).map (·.2.job)

/-- What a console prints that is made for `total` jobs, in the order of the callbacks. -/
def consoleLines (total : Nat) (elapsed : JobId → Nat) (history : List Event) : List String :=
  (Console.mk total 0).printAll ((calls history).map fun call => call.2.timed elapsed call.1)

/-- The jobs that were started in a run. -/
def Run.started (run : Run) : List JobId := gather Event.enteredJobs run.history

theorem count_closings (history : List Event) (v : JobId) :
    (closings history).count v = (callsAbout v history).countP (·.2.isLast) := by
  simp only [closings, callsAbout, List.count, List.countP_map, List.countP_filter]
  refine List.countP_congr fun call _ => ?_
  simp [and_comm]

theorem countP_numbered (total : Nat) (elapsed : JobId → Nat) (history : List Event) (n : Nat) :
    (consoleLines total elapsed history).countP (Console.Numbered total n ·) =
      if 1 ≤ n ∧ n ≤ (closings history).length then 1 else 0 := by
  have numbered := Console.countP_printAll ⟨total, 0⟩
    ((calls history).map fun call => call.2.timed elapsed call.1) n
  have finished : ((calls history).map fun call => call.2.timed elapsed call.1).countP
      Progress.isLast = (closings history).length := by
    rw [closings, List.length_map, ← List.countP_eq_length_filter, List.countP_map]
    exact List.countP_congr fun call _ => by simp [Callback.isLast_timed]
  rw [finished] at numbered
  simpa [consoleLines, Nat.lt_iff_add_one_le] using numbered

section
variable {plan : Plan} {s : Pool}

/-- When everybody has left, the observer was told of the ends of the started jobs. -/
theorem Pool.Narration.closings_perm (h : Narration plan s) (chronicle : Chronicle plan s)
    (silent : ∀ callback, plan.observer callback = none)
    (alone : ∀ p ∈ s.positions, isGone p = true) (once : s.started.Nodup) :
    (closings s.history).Perm s.started := by
  refine List.perm_iff_count.mpr fun v => ?_
  rw [count_closings]
  obtain ⟨unstarted, none⟩ | ⟨started, worker, both⟩ := h.of_gone chronicle silent alone v
  · rw [none, List.count_eq_zero_of_not_mem unstarted, List.countP_nil]
  · rw [both, List.count_eq_one_of_mem once started]
    simp [plan.isLast_lastCall, show (Callback.started v).isLast = false from rfl]

end

/-- What the observer has been told at any time in a run. -/
structure Informed (plan : Plan) (edges : List Edge) (history : List Event) : Prop where
  /-- Nothing about a job, or its start, or its start and then its end from the same worker. -/
  inTurn : ∀ v, callsAbout v history = [] ∨ ∃ worker,
    callsAbout v history = [(worker, .started v)] ∨
      callsAbout v history = [(worker, .started v), (worker, plan.lastCall v)]
  /-- The success of a job before the start of those that wait for it. -/
  ordered : ∀ edge ∈ edges, ∀ later worker earlier,
    history = later ++ .called worker (.started edge.target) :: earlier →
      ∃ other, .called other (.succeeded edge.source) ∈ earlier

/-- What the observer has been told when a run has returned, and what a console has printed. -/
structure Debriefed (plan : Plan) (jobs : List JobId) (edges : List Edge) (run : Run) : Prop
    extends Informed plan edges run.history where
  /-- No end of a started job is missing. -/
  complete : ∀ v, v ∉ run.started ∧ callsAbout v run.history = [] ∨ v ∈ run.started ∧
    ∃ worker, callsAbout v run.history = [(worker, .started v), (worker, plan.lastCall v)]
  bounded : run.started.length ≤ jobs.length
  full : ∀ report, run.result = .ok (.succeeded report) → run.started.length = jobs.length
  /-- In whatever order the lines are printed, each number up to that of the started jobs is on one
  line, and no other number is. -/
  numbered : ∀ elapsed (printed : List String),
    printed.Perm (consoleLines jobs.length elapsed run.history) →
      ∀ n, printed.countP (Console.Numbered jobs.length n ·) =
        if 1 ≤ n ∧ n ≤ run.started.length then 1 else 0

section
variable {plan : Plan} {jobs : List JobId} {edges : List Edge}

theorem Pool.Reachable.informed (built : Graph.build jobs edges = .ok plan.graph)
    (silent : ∀ callback, plan.observer callback = none) {s : Pool} (h : Reachable plan s) :
    Informed plan edges s.history where
  inTurn := (h.narration (Graph.sound_of_build built) silent).inTurn
  ordered edge member later worker earlier split :=
    h.heralded (Graph.sound_of_build built) silent later _ earlier split worker edge.target rfl
      edge.source (Graph.mem_dependencies.mpr ((Graph.mem_edges_of_build built).mpr member))

theorem succeeded_of_result {s : Pool} {report : SuccessReport}
    (h : s.result plan = .ok (.succeeded report)) : s.tally.complete = true := by
  unfold Pool.result at h
  split at h
  · split at h
    · rename_i full; exact full
    · simp at h
  · simp at h
  · simp at h

theorem debriefed_idle (built : Graph.build jobs edges = .ok plan.graph)
    (silent : ∀ callback, plan.observer callback = none) (empty : jobs = []) :
    Debriefed plan jobs edges { result := .ok Scheduler.nothingToRun } where
  toInformed := Pool.Reachable.start.informed built silent
  complete v := .inl ⟨List.not_mem_nil, rfl⟩
  bounded := Nat.zero_le _
  full _ _ := by rw [empty]; rfl
  numbered elapsed printed perm n := by
    rw [perm.countP_eq, countP_numbered]
    rfl

/-- A run that has succeeded has started every job. -/
theorem Pool.Ledger.started_perm {s : Pool} (ledger : Ledger plan s) (ready : Readiness plan s)
    (full : s.tally.complete = true) : s.started.Perm plan.graph.jobs := by
  have all := completed_perm ledger ready full
  refine (List.perm_ext_iff_of_nodup (ledger.nodup_started ready.distinct)
    (all.nodup_iff.mp (ledger.nodup_completed ready.distinct))).mpr fun v => ?_
  exact ⟨fun started => ready.started_listed ledger started,
    fun listed => ledger.completed_subset (all.mem_iff.mpr listed)⟩

theorem Pool.Reachable.debriefed (built : Graph.build jobs edges = .ok plan.graph)
    (silent : ∀ callback, plan.observer callback = none) {s : Pool} (h : Reachable plan s)
    {result : Except Error Verdict} (at_ : s.stage = .returned result) :
    Debriefed plan jobs edges { result, history := s.history } := by
  have sound := Graph.sound_of_build built
  obtain rfl := Graph.jobs_of_build built
  have ledger := h.ledger sound
  have ready := h.readiness sound
  have once := ledger.nodup_started ready.distinct
  have narration := h.narration sound silent
  obtain ⟨-, alone, same⟩ := (h.conduct sound).returned at_
  have started : Run.started { result, history := s.history } = s.started :=
    h.chronicle.started.symm
  refine ⟨h.informed built silent, ?_, ?_, ?_, ?_⟩
  · rw [started]
    exact narration.of_gone h.chronicle silent alone
  · rw [started]
    exact List.Nodup.length_le_of_subset once (ready.started_listed ledger)
  · rintro report rfl
    rw [started]
    exact (ledger.started_perm ready (succeeded_of_result same.symm)).length_eq
  · intro elapsed printed perm n
    rw [perm.countP_eq, countP_numbered, started,
      (narration.closings_perm h.chronicle silent alone once).length_eq]

/-- If no callback panics, the observer is told of a job at most its start and then, by the same
worker, how its body ended, which is also so for a failure that comes too late to stop the run; and
before a job starts it is told of the success of each job that it waits for. When the run has
returned, no started job lacks its end, and a console has numbered the finished jobs from one up to
their number, which is the number of all jobs if the run has succeeded. -/
theorem observer_follows_run (built : Graph.build jobs edges = .ok plan.graph)
    (silent : ∀ callback, plan.observer callback = none) :
    (∀ s, Pool.Reachable plan s → Informed plan edges s.history) ∧
      ∀ run, plan.Ends run → Debriefed plan jobs edges run := by
  refine ⟨fun s reached => reached.informed built silent, fun run ends => ?_⟩
  cases ends with
  | idle empty => exact debriefed_idle built silent ((Graph.jobs_of_build built).symm.trans empty)
  | rootless nonempty rootless =>
    exact absurd rootless ((Graph.sound_of_build built).roots_ne_nil nonempty)
  | pool nonempty rooted reached at_ => exact reached.debriefed built silent at_

/-- Both middle jobs of a diamond fail. The second failure comes too late to stop the run, and the
observer is told of it all the same. Three jobs are numbered out of four. -/
theorem observer_follows_twins :
    let s := Pool.finalState Pool.twins {}
    let failure : JobFailure := .ofPanic ⟨"3"⟩ "3"
    s.latch.held = some (.job (.ofPanic ⟨"2"⟩ "2")) ∧
      callsAbout ⟨"3"⟩ s.history = [(2, .started ⟨"3"⟩), (2, .failed failure.detached)] ∧
      Informed Pool.twins Graph.diamond.edges s.history ∧
      ∃ run, Pool.twins.Ends run ∧ run.history = s.history ∧ run.started.length = 3 ∧
        Debriefed Pool.twins Graph.diamond.jobs Graph.diamond.edges run := by
  intro s failure
  have reached : Pool.Reachable Pool.twins s := Pool.reachable_finalState Pool.twins {}
  obtain ⟨informed, debriefed⟩ := @observer_follows_run Pool.twins _ _ Graph.build_diamond
    fun _ => rfl
  have nonempty : Pool.twins.graph.jobs ≠ [] := by decide
  have rooted : Pool.twins.graph.roots ≠ [] := by decide
  have ends : Pool.twins.Ends { result := s.result Pool.twins, history := s.history } :=
    .pool nonempty rooted reached (by rfl)
  exact ⟨by rfl, by rfl, informed s reached, _, ends, rfl, by rfl, debriefed _ ends⟩

end

end Precedence

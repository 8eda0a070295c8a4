import Precedence.Logbook
import Precedence.Proofs.Crowd
import Precedence.Proofs.JobSet
import Precedence.Proofs.Journal
/-!
# The journal of bodies that run at the same time

An entry takes its number before it is written, and the counter is not behind the lock of the list.
Still, whoever has taken a number holds the lock until the entry is written, so the counter is one
ahead exactly while a thread is about to write (`Kept`), and the entries are counted in every state.
So the order of any two entries of the journal is the order of their numbers, and what the journal
says of the order of two jobs can be relied on (`job_sets_keep_journals`).
-/

namespace Precedence

namespace Logbook

/-- The entry that was written, if one was. -/
def Note.written? : Note → Option Entry
  | .recorded entry => some entry
  | .awaited _ _ | .paused _ | .ended _ => none

/-- The entries that were written, in their order. -/
def written (notes : List (Nat × Note)) : List Entry := notes.filterMap (·.2.written?)

/-- The call that comes to this. -/
def Note.call : Note → Call
  | .recorded entry => .record entry.mark entry.job
  | .awaited other _ => .await other
  | .paused milliseconds => .pause milliseconds
  | .ended outcome => .finish outcome

/-- The call that a thread is in the middle of, as long as it is not decided. -/
def Stand.under : Stand → List Call
  | .numbering mark job => [.record mark job]
  | .writing entry => [.record entry.mark entry.job]
  | .searching other _ | .turning other _ | .resting other _ => [.await other]
  | .free | .leaving => []

/-- Whether a call leaves something behind: an entry, or how the body ended. -/
def Call.lasting : Call → Bool
  | .record _ _ | .finish _ => true
  | .await _ | .pause _ => false

/-- The actions that a call takes at most. -/
def Call.effort : Call → Nat
  | .record _ _ => 4
  | .await _ => 3 * maxLooks + 1
  | .pause _ | .finish _ => 1

/-- The actions that are left there at most. -/
def Stand.effort : Stand → Nat
  | .free => 0
  | .leaving => 1
  | .writing _ => 2
  | .numbering _ _ => 3
  | .resting _ looks => 3 * looks + 1
  | .turning _ looks => 3 * looks + 2
  | .searching _ looks => 3 * looks + 3

theorem opening {call : Call} {stand : Stand} (opens : call.entrance = some stand) :
    Opening Stand.holds Stand.under Stand.effort Call.effort call stand := by
  cases call with
  | record | await => exact Option.some.inj opens ▸ ⟨rfl, rfl, rfl⟩
  | pause | finish => simp [Call.entrance] at opens

theorem ne_writing_of_entrance {call : Call} {stand : Stand} (opens : call.entrance = some stand)
    (entry : Entry) : stand ≠ .writing entry := by
  cases call with
  | record | await => simp [← Option.some.inj opens]
  | pause | finish => simp [Call.entrance] at opens

/-! ## The counter and the list -/

/-- The journal has what was recorded, numbered in its order. The counter is ahead of the list by
the entry that is about to be written. -/
structure Kept (s : Writers) : Prop where
  counted : s.shared.journal.Counted
  written : s.shared.journal.entries = written s.entries
  pending : ∀ {entry : Entry}, s.Occupied (.writing entry) →
    entry.number = s.shared.journal.entries.length ∧
      s.shared.journal.next = s.shared.journal.entries.length + 1
  even : (∀ entry, ¬ s.Occupied (.writing entry)) →
    s.shared.journal.next = s.shared.journal.entries.length

section
variable {s t u : Writers} {place steps strays : Nat} {scripts : List (List ScriptedJob)}
  {c d : Thread Stand Call} {note : Option Note} {shared : Logbook}

theorem guarded : protocol.Guarded Stand.holds locked where
  act acts := by
    cases acts with
    | enters opens free => exact .takes free (opening opens).locked rfl
    | returns free => exact .takes free rfl rfl
    | turns | leaves => exact .returns rfl rfl rfl
    | _ => exact .leavesAlone rfl rfl
  stray stray := stray.elim

theorem Trail.exclusive (trail : protocol.Trail (start scripts) steps strays s) :
    Protocol.Exclusive Stand.holds locked s :=
  Protocol.Trail.exclusive guarded (Protocol.exclusive_start rfl rfl) trail

theorem written_after :
    written (s.after place note shared d).entries =
      written s.entries ++ (note.bind Note.written?).toList := by
  rw [Crowd.after_entries, written, List.filterMap_append, ← written]
  cases note with
  | none => rfl
  | some note => cases note <;> rfl

theorem kept_start : Kept (start scripts) where
  counted := Journal.counted_new
  written := rfl
  pending writes := absurd writes (Crowd.not_occupied_start (by simp))
  even _ := rfl

namespace Kept

variable (h : Kept s)
include h

/-- An action that leaves the journal alone. -/
theorem quiet (standing : s.threads[place]? = some c) (before : ∀ entry, c.stand ≠ .writing entry)
    (now : ∀ entry, d.stand ≠ .writing entry) (same : shared.journal = s.shared.journal)
    (mute : note.bind Note.written? = none) : Kept (s.after place note shared d) where
  counted := by
    rw [Crowd.after_shared, same]
    exact h.counted
  written := by
    rw [Crowd.after_shared, same, written_after, mute, h.written]
    simp
  pending writes := by
    rw [Crowd.after_shared, same]
    exact h.pending ((Crowd.occupied_after_iff standing (before _) (now _)).mp writes)
  even nobody := by
    rw [Crowd.after_shared, same]
    exact h.even fun entry writes =>
      nobody entry ((Crowd.occupied_after_iff standing (before _) (now _)).mpr writes)

theorem act (exclusive : Protocol.Exclusive Stand.holds locked s)
    (standing : s.threads[place]? = some c) (acts : Act s.shared c note shared d) :
    Kept (s.after place note shared d) := by
  cases acts with
  | enters opens free =>
    exact h.quiet standing (by simp) (ne_writing_of_entrance opens) rfl rfl
  | @numbers mark job rest =>
    -- nobody else holds the lock, so the counter and the list are even
    have next := h.even fun entry => exclusive.not_occupied standing rfl rfl (by simp)
    refine ⟨h.counted, ?_, ?_, ?_⟩
    · rw [written_after]
      simpa using h.written
    · intro entry writes
      obtain rfl := Stand.writing.inj (exclusive.of_occupied_after standing rfl rfl writes)
      exact ⟨next, congrArg (· + 1) next⟩
    · intro idle
      exact absurd ⟨place, _, Crowd.arrived standing, rfl⟩ (idle ⟨s.shared.journal.next, mark, job⟩)
  | @writes entry rest =>
    obtain ⟨number, next⟩ := h.pending ⟨place, _, standing, rfl⟩
    refine ⟨h.counted.concat number _, ?_, ?_, ?_⟩
    · rw [written_after, ← h.written]
      rfl
    · intro other writes
      have none := exclusive.of_occupied_after standing rfl rfl writes
      simp at none
    · intro _
      simp [next]
  | finds | misses | turns | returns | givesUp | pauses | ends | leaves =>
    exact h.quiet standing (by simp) (by simp) rfl rfl

end Kept

theorem Trail.kept (trail : protocol.Trail (start scripts) steps strays s) : Kept s := by
  induction trail with
  | start => exact kept_start
  | step before step ih =>
    cases step with
    | act standing acts => exact ih.act (Trail.exclusive before) standing acts
  | stray _ stray _ => exact stray.elim

/-! ## Every body ends -/

theorem orderly : protocol.Orderly Note.call Stand.under := by
  intro place shared c note shared' d acts
  cases acts with
  | enters opens free =>
    rw [(opening opens).begun]
    rfl
  | _ => rfl

theorem acts_of_holds {s : Logbook} (holds : c.stand.holds = true) : protocol.Acts place s c := by
  obtain ⟨stand, calls⟩ := c
  cases stand with
  | free | resting => simp [Stand.holds] at holds
  | numbering => exact ⟨_, _, _, .numbers⟩
  | writing => exact ⟨_, _, _, .writes⟩
  | leaving => exact ⟨_, _, _, .leaves⟩
  | turning => exact ⟨_, _, _, .turns⟩
  | searching other looks =>
    cases ran : s.journal.ran other with
    | true => exact ⟨_, _, _, .finds ran⟩
    | false => exact ⟨_, _, _, .misses ran⟩

theorem acts_or_done_of_free {s : Logbook} (free : s.locked = false)
    (lacks : c.stand.holds = false) : protocol.Acts place s c ∨ c = ⟨.free, []⟩ := by
  obtain ⟨stand, calls⟩ := c
  cases stand with
  | free =>
    match calls with
    | [] => exact .inr rfl
    | .record _ _ :: _ => exact .inl ⟨_, _, _, .enters rfl free⟩
    | .await _ :: _ => exact .inl ⟨_, _, _, .enters rfl free⟩
    | .pause _ :: _ => exact .inl ⟨_, _, _, .pauses⟩
    | .finish _ :: _ => exact .inl ⟨_, _, _, .ends⟩
  | resting other looks =>
    cases looks with
    | zero => exact .inl ⟨_, _, _, .givesUp⟩
    | succ looks => exact .inl ⟨_, _, _, .returns free⟩
  | _ => simp [Stand.holds] at lacks

/-- As long as some body has not ended, some thread can act. -/
theorem exists_step (trail : protocol.Trail (start scripts) steps strays s)
    (going : ¬ s.Done .free) : ∃ t, protocol.Step s t :=
  (Trail.exclusive trail).exists_step acts_of_holds acts_or_done_of_free going

/-- Every action of a thread leaves it less to do. -/
theorem Act.effort_lt {s : Logbook} (acts : Act s c note shared d) :
    Thread.effort Stand.effort Call.effort d < Thread.effort Stand.effort Call.effort c := by
  cases acts with
  | enters opens free =>
    have idles : Stand.free.effort = 0 := rfl
    exact Nat.le_of_eq ((opening opens).effort_add_one idles _)
  | _ =>
    simp only [Thread.effort, Stand.effort, Call.effort, List.map_cons, List.sum_cons]
    omega

/-- The most actions that threads take for these jobs. -/
def maxSteps (scripts : List (List ScriptedJob)) : Nat :=
  (3 * maxLooks + 1) * ((scripts.map (·.flatMap ScriptedJob.body)).map List.length).sum

theorem Trail.steps_le (trail : protocol.Trail (start scripts) steps strays s) :
    steps ≤ maxSteps scripts := by
  have idles : Stand.free.effort = 0 := rfl
  refine Protocol.Trail.steps_le idles (fun call => ?_) Act.effort_lt trail
  cases call <;> simp [Call.effort, maxLooks]

/-! ## What the bodies leave behind -/

theorem finished_or_failed (job : ScriptedJob) :
    job.closingMark = .finished ∧ job.outcome = .success ∨
      job.closingMark = .failed ∧ job.outcome ≠ .success := by
  unfold ScriptedJob.closingMark
  cases job.outcome <;> simp

/-- What an invocation of a body leaves behind: that the job starts, later how it ends, and then
that it ends so. -/
def traces (job : ScriptedJob) : List Call :=
  [.record .started job.id, .record job.closingMark job.id, .finish job.outcome]

theorem filter_lasting_body (job : ScriptedJob) : job.body.filter Call.lasting = traces job := by
  rw [ScriptedJob.body]
  cases job.waitsFor <;> cases job.delay <;> rfl

theorem filter_lasting_flatMap_body (script : List ScriptedJob) :
    (script.flatMap ScriptedJob.body).filter Call.lasting = script.flatMap traces := by
  rw [List.filter_flatMap]
  simp only [filter_lasting_body]

/-- What the calls of one thread have left behind. -/
def leftBy (s : Writers) (place : Nat) : List Call :=
  ((s.doneBy place).map Note.call).filter Call.lasting

theorem Trail.leftBy_prefix (trail : protocol.Trail (start scripts) steps strays s)
    {script : List ScriptedJob} (given : scripts[place]? = some script) :
    leftBy s place <+: script.flatMap traces := by
  have calls : (scripts.map fun script => script.flatMap ScriptedJob.body)[place]? =
      some (script.flatMap ScriptedJob.body) := by
    rw [List.getElem?_map, given, Option.map_some]
  have made := (Protocol.Trail.calls_prefix orderly rfl trail calls).filter Call.lasting
  rwa [filter_lasting_flatMap_body] at made

theorem Trail.calls_of_done (trail : protocol.Trail (start scripts) steps strays s)
    (done : s.Done .free) {script : List ScriptedJob} (given : scripts[place]? = some script) :
    (s.doneBy place).map Note.call = script.flatMap ScriptedJob.body := by
  have calls : (scripts.map fun script => script.flatMap ScriptedJob.body)[place]? =
      some (script.flatMap ScriptedJob.body) := by
    rw [List.getElem?_map, given, Option.map_some]
  obtain ⟨c, standing⟩ := Protocol.Trail.standing_of_script trail calls
  obtain rfl := done c (List.mem_of_getElem? standing)
  have made := Protocol.Trail.doneBy_of_done orderly rfl trail standing
  exact (Option.some.inj (calls.symm.trans made)).symm

theorem Trail.leftBy_of_done (trail : protocol.Trail (start scripts) steps strays s)
    (done : s.Done .free) {script : List ScriptedJob} (given : scripts[place]? = some script) :
    leftBy s place = script.flatMap traces := by
  rw [leftBy, Trail.calls_of_done trail done given, filter_lasting_flatMap_body]

/-- What a call tells the journal. -/
def Call.fact? : Call → Option (Mark × JobId)
  | .record mark job => some (mark, job)
  | .await _ | .pause _ | .finish _ => none

theorem facts_of_notes (notes : List Note) :
    (notes.filterMap Note.written?).map (fun entry => (entry.mark, entry.job)) =
      (notes.map Note.call).filterMap Call.fact? := by
  rw [List.map_filterMap, List.filterMap_map]
  refine List.filterMap_congr fun note _ => ?_
  cases note <;> rfl

theorem facts_of_body (job : ScriptedJob) :
    job.body.filterMap Call.fact? = [(.started, job.id), (job.closingMark, job.id)] := by
  rw [ScriptedJob.body]
  cases job.waitsFor <;> cases job.delay <;> rfl

/-- Bodies that a single thread runs keep the journal that they would keep one at a time. -/
theorem Trail.alone {script : List ScriptedJob}
    (trail : protocol.Trail (start [script]) steps strays s) (done : s.Done .free) :
    s.shared.journal = script.foldl (fun j job => job.runAlone j) {} := by
  have kept := Trail.kept trail
  have next := kept.even fun entry => done.not_occupied (by simp)
  -- all notes are those of the only thread
  have own : ∀ noted ∈ s.entries, noted.1 = 0 := by
    intro noted member
    obtain ⟨c, standing⟩ := Protocol.Trail.standing_of_mem trail member
    have bound := (List.getElem?_eq_some_iff.mp standing).1
    rw [Protocol.Trail.length_eq trail] at bound
    simpa [start, Crowd.start] using bound
  have all : written s.entries = (s.doneBy 0).filterMap Note.written? := by
    have same : s.entries.filter (·.1 = 0) = s.entries :=
      List.filter_eq_self.mpr fun noted member => decide_eq_true (own noted member)
    rw [Crowd.doneBy, entriesAt, same, List.filterMap_map, written]
    rfl
  have facts : s.shared.journal.entries.map (fun entry => (entry.mark, entry.job)) =
      script.flatMap fun job => [(.started, job.id), (job.closingMark, job.id)] := by
    rw [kept.written, all, facts_of_notes, Trail.calls_of_done trail done rfl,
      List.filterMap_flatMap]
    simp only [facts_of_body]
  rw [kept.counted.eq_ofTold next, facts, Journal.ofTold, List.foldl_flatMap]
  rfl

/-! ## The theorem -/

/-- What can be relied on while bodies keep a journal. -/
structure Reliable (scripts : List (List ScriptedJob)) (steps : Nat) (s : Writers) : Prop where
  counted : s.shared.journal.Counted
  /-- An entry that one job finished is in front of all entries that another one started. -/
  ordered : ∀ before after, s.shared.journal.finishedBeforeStart before after = true ↔
    (∃ place, s.shared.journal.Shows place .started after) ∧
      ∃ place, s.shared.journal.Shows place .finished before ∧
        ∀ other, s.shared.journal.Shows other .started after → place < other
  /-- The journal has what the bodies recorded, each of them in its order. -/
  written : s.shared.journal.entries = written s.entries
  running : ∀ place script, scripts[place]? = some script →
    leftBy s place <+: script.flatMap traces
  done : s.Done .free → ∀ place script, scripts[place]? = some script →
    leftBy s place = script.flatMap traces
  goesOn : s.Done .free ∨ ∃ t, protocol.Step s t
  bounded : steps ≤ maxSteps scripts

theorem Trail.reliable (trail : protocol.Trail (start scripts) steps strays s) :
    Reliable scripts steps s where
  counted := (Trail.kept trail).counted
  ordered _ _ := (Trail.kept trail).counted.finishedBeforeStart_iff
  written := (Trail.kept trail).written
  running _ _ := Trail.leftBy_prefix trail
  done finished _ _ := Trail.leftBy_of_done trail finished
  goesOn := by
    by_cases done : s.Done .free
    · exact .inl done
    · exact .inr (exists_step trail done)
  bounded := Trail.steps_le trail

end

/-- A set is built of one job for each id that was named, in the order of first mention, so no
scheduler finds one twice; each job ends as the last step that named it said, and records that it
finished if and only if it succeeds. However the bodies of jobs interleave on any number of threads,
each invocation records that the job starts, later how it ends, and then ends so; the entries are
numbered in their order, so the journal can be relied on when it says that one job finished before
another one started. -/
theorem job_sets_keep_journals (steps : List JobSet.BuildStep) :
    JobSet.Built (JobSet.namings steps) (JobSet.assemble steps).build.1 ∧
      (∀ workers job, Scheduler.make ((JobSet.assemble steps).build.1.map (·.id))
        (JobSet.assemble steps).build.2 workers ≠ .error (.duplicateJob job)) ∧
      (∀ job ∈ (JobSet.assemble steps).build.1,
        job.closingMark = .finished ∧ job.outcome = .success ∨
          job.closingMark = .failed ∧ job.outcome ≠ .success) ∧
      ∀ (scripts : List (List ScriptedJob)) (n strays : Nat) (s : Writers),
        protocol.Trail (start scripts) n strays s → Reliable scripts n s := by
  have built := (JobSet.knows_assemble steps).build
  exact ⟨built, fun workers job => built.make_ne_duplicate _ workers job,
    fun job _ => finished_or_failed job, fun _ _ _ _ => Trail.reliable⟩

/-- A job that fails waits for the start of another one, which is on a second thread with a job that
was to fail when it was first named. -/
theorem three_keep_journal :
    let a : ScriptedJob := ⟨⟨"a"⟩, .failure (.ofMessage "broken"), none, some ⟨"b"⟩⟩
    let b : ScriptedJob := ⟨⟨"b"⟩, .success, none, none⟩
    let c : ScriptedJob := ⟨⟨"c"⟩, .success, none, none⟩
    let steps : List JobSet.BuildStep := [.failing c.id "late", .job b.id, .failing a.id "broken",
      .waitForStartOf a.id b.id, .job c.id, .edge b.id c.id]
    let entries : List Entry := [⟨0, .started, a.id⟩, ⟨1, .started, b.id⟩, ⟨2, .finished, b.id⟩,
      ⟨3, .started, c.id⟩, ⟨4, .failed, a.id⟩, ⟨5, .finished, c.id⟩]
    (JobSet.assemble steps).build.1 = [c, b, a] ∧ JobSet.Built (JobSet.namings steps) [c, b, a] ∧
      ∃ s, protocol.Trail (start [[a], [b, c]]) 33 0 s ∧ s.Done .free ∧
        s.shared.journal.entries = entries ∧
        s.shared.journal.finishedBeforeStart b.id c.id = true ∧
        s.shared.journal.finishedBeforeStart b.id a.id = false ∧
        Reliable [[a], [b, c]] 33 s := by
  intro a b c steps entries
  obtain ⟨built, -, -, reliable⟩ := job_sets_keep_journals steps
  let notes : List (Nat × Note) := [(0, .recorded ⟨0, .started, a.id⟩),
    (1, .recorded ⟨1, .started, b.id⟩), (1, .recorded ⟨2, .finished, b.id⟩), (1, .ended .success),
    (0, .awaited b.id true), (1, .recorded ⟨3, .started, c.id⟩), (0, .recorded ⟨4, .failed, a.id⟩),
    (0, .ended a.outcome), (1, .recorded ⟨5, .finished, c.id⟩), (1, .ended .success)]
  let others : List Call := b.body ++ c.body
  have begins : protocol.Trail (start [[a], [b, c]]) 0 0
      ⟨{}, [⟨.free, a.body⟩, ⟨.free, others⟩], []⟩ := .start
  have starts : protocol.Trail (start [[a], [b, c]]) 4 0
      ⟨⟨⟨1, entries.take 1⟩, false⟩, [⟨.free, a.body.drop 1⟩, ⟨.free, others⟩], notes.take 1⟩ :=
    (((begins.act 0 rfl (.enters rfl rfl)).act 0 rfl .numbers).act 0 rfl .writes).act 0 rfl .leaves
  have missed : protocol.Trail (start [[a], [b, c]]) 7 0
      ⟨⟨⟨1, entries.take 1⟩, false⟩, [⟨.resting b.id 499, a.body.drop 2⟩, ⟨.free, others⟩],
        notes.take 1⟩ :=
    ((starts.act 0 rfl (.enters rfl rfl)).act 0 rfl (.misses rfl)).act 0 rfl .turns
  have second : protocol.Trail (start [[a], [b, c]]) 11 0
      ⟨⟨⟨2, entries.take 2⟩, false⟩, [⟨.resting b.id 499, a.body.drop 2⟩, ⟨.free, others.drop 1⟩],
        notes.take 2⟩ :=
    (((missed.act 1 rfl (.enters rfl rfl)).act 1 rfl .numbers).act 1 rfl .writes).act 1 rfl .leaves
  have finished : protocol.Trail (start [[a], [b, c]]) 16 0
      ⟨⟨⟨3, entries.take 3⟩, false⟩, [⟨.resting b.id 499, a.body.drop 2⟩, ⟨.free, c.body⟩],
        notes.take 4⟩ :=
    ((((second.act 1 rfl (.enters rfl rfl)).act 1 rfl .numbers).act 1 rfl .writes).act 1 rfl
      .leaves).act 1 rfl .ends
  have found : protocol.Trail (start [[a], [b, c]]) 19 0
      ⟨⟨⟨3, entries.take 3⟩, false⟩, [⟨.free, a.body.drop 2⟩, ⟨.free, c.body⟩], notes.take 5⟩ :=
    ((finished.act 0 rfl (.returns rfl)).act 0 rfl (.finds rfl)).act 0 rfl .leaves
  have third : protocol.Trail (start [[a], [b, c]]) 23 0
      ⟨⟨⟨4, entries.take 4⟩, false⟩, [⟨.free, a.body.drop 2⟩, ⟨.free, c.body.drop 1⟩],
        notes.take 6⟩ :=
    (((found.act 1 rfl (.enters rfl rfl)).act 1 rfl .numbers).act 1 rfl .writes).act 1 rfl .leaves
  have failed : protocol.Trail (start [[a], [b, c]]) 28 0
      ⟨⟨⟨5, entries.take 5⟩, false⟩, [⟨.free, []⟩, ⟨.free, c.body.drop 1⟩], notes.take 8⟩ :=
    ((((third.act 0 rfl (.enters rfl rfl)).act 0 rfl .numbers).act 0 rfl .writes).act 0 rfl
      .leaves).act 0 rfl .ends
  have ends : protocol.Trail (start [[a], [b, c]]) 33 0
      ⟨⟨⟨6, entries⟩, false⟩, [⟨.free, []⟩, ⟨.free, []⟩], notes⟩ :=
    ((((failed.act 1 rfl (.enters rfl rfl)).act 1 rfl .numbers).act 1 rfl .writes).act 1 rfl
      .leaves).act 1 rfl .ends
  exact ⟨rfl, built, _, ends, by decide, rfl, by decide, by decide, reliable _ _ _ _ ends⟩

end Logbook

end Precedence

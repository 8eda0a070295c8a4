import Mathlib.Algebra.GroupWithZero.Nat
import Precedence.Worker
/-!
# Where a lone worker leaves the jobs

A job leaves the queue when a worker takes it up, and there are three things that can become of it:
the worker is stopped, the job is in no table, or its body is run (`Bench.Round`). Whatever bodies do
to the board, they take nothing out of the queue. So the jobs that the queue has accepted are those
that wait in it, those that were started, and one more for each call that was stopped or met a job in
no table (`calls_account_for_jobs`). A job is completed if its body succeeds, and a body that fails
ends the call.
-/

namespace Precedence.Bench

/-! ## One round -/

/-- What a round does, one case for each way it can go. -/
inductive Round (table : JobId → Option Body) (worker : Nat) (b : Bench) : Turn → Prop where
  | blocks (found : b.backlog.take = .blocked) : Round table worker b .blocked
  | drains (found : b.backlog.take = .ended) : Round table worker b (.leave .drained b)
  | turnsAway {job : JobId} {rest : Backlog} (found : b.backlog.take = .job job rest)
      (stopped : b.latch.stopped = true) :
      Round table worker b (.leave .stopped { b with backlog := rest })
  | misses {job : JobId} {rest : Backlog} (found : b.backlog.take = .job job rest)
      (running : b.latch.stopped = false) (absent : table job = none) :
      Round table worker b (.leave .failed
        ({ b with backlog := rest }.fail (.internal (Breach.unlisted job).toError)))
  | fails {job : JobId} {rest : Backlog} {body : Body} {failure : JobFailure}
      (found : b.backlog.take = .job job rest) (running : b.latch.stopped = false)
      (listed : table job = some body)
      (failed : JobFailure.ofOutcome? job body.outcome = some failure) :
      Round table worker b (.leave .failed
        ((({ b with backlog := rest }.execute worker job body.acts).fail (.job failure)).see
          (.failed failure.detached)))
  | succeeds {job : JobId} {rest : Backlog} {body : Body}
      (found : b.backlog.take = .job job rest) (running : b.latch.stopped = false)
      (listed : table job = some body) (fine : body.outcome = .success) :
      Round table worker b
        ((({ b with backlog := rest }.execute worker job body.acts).see
          (.succeeded job)).complete job)

section
variable {table : JobId → Option Body} {worker : Nat} {b c after : Bench} {job : JobId}

theorem round_turn (table : JobId → Option Body) (worker : Nat) (b : Bench) :
    Round table worker b (b.turn table worker) := by
  cases found : b.backlog.take with
  | blocked =>
    simp only [turn, found]
    exact .blocks found
  | ended =>
    simp only [turn, found]
    exact .drains found
  | job job rest =>
    cases running : b.latch.stopped with
    | true =>
      simp only [turn, found, running, if_true]
      exact .turnsAway found running
    | false =>
      cases listed : table job with
      | none =>
        simp only [turn, found, running, listed, Bool.false_eq_true, if_false]
        exact .misses found running listed
      | some body =>
        cases failed : JobFailure.ofOutcome? job body.outcome with
        | some failure =>
          simp only [turn, found, running, listed, failed, Bool.false_eq_true, if_false]
          exact .fails found running listed failed
        | none =>
          have fine := JobFailure.ofOutcome?_eq_none.mp failed
          simp only [turn, found, running, listed, failed, Bool.false_eq_true, if_false]
          exact .succeeds found running listed fine

/-! ## What takes no job out of the queue -/

/-- Jobs may have been pushed, but none was taken, started or completed. -/
structure Quiet (b after : Bench) : Prop where
  balance : after.backlog.accepted + b.backlog.waiting.length =
    b.backlog.accepted + after.backlog.waiting.length
  started : after.started = b.started
  completed : after.completed = b.completed

theorem Quiet.refl (b : Bench) : Quiet b b := ⟨rfl, rfl, rfl⟩

theorem Quiet.trans (first : Quiet b c) (second : Quiet c after) : Quiet b after := by
  have one := first.balance
  have two := second.balance
  exact ⟨by omega, second.started.trans first.started, second.completed.trans first.completed⟩

theorem quiet_see (b : Bench) (sighting : Sighting) : Quiet b (b.see sighting) := ⟨rfl, rfl, rfl⟩

theorem push_balance (q : Backlog) (job : JobId) :
    (q.push job).accepted + q.waiting.length = q.accepted + (q.push job).waiting.length := by
  cases closed : q.closed with
  | false =>
    simp [Backlog.push_of_open closed]
    omega
  | true => simp [Backlog.push_of_closed closed]

theorem pushAll_balance (q : Backlog) (jobs : List JobId) :
    (q.pushAll jobs).accepted + q.waiting.length =
      q.accepted + (q.pushAll jobs).waiting.length := by
  induction jobs generalizing q with
  | nil => rfl
  | cons job rest ih =>
    have first := push_balance q job
    have others := ih (q.push job)
    simp only [Backlog.pushAll, List.foldl_cons] at others ⊢
    omega

theorem quiet_perform (b : Bench) (act : Act) : Quiet b (b.perform act) := by
  cases act with
  | push job => exact ⟨push_balance b.backlog job, rfl, rfl⟩
  | close | report cause | mark => exact ⟨rfl, rfl, rfl⟩

theorem quiet_foldl_perform (b : Bench) (acts : List Act) : Quiet b (acts.foldl perform b) := by
  induction acts generalizing b with
  | nil => exact .refl b
  | cons act rest ih => exact (quiet_perform b act).trans (ih (b.perform act))

theorem quiet_fail (b : Bench) (cause : StopCause) : Quiet b (b.fail cause) := by
  unfold fail
  split
  · exact .refl b
  · exact ⟨rfl, rfl, rfl⟩

theorem quiet_offer (b : Bench) (ready : List JobId) : Quiet b (b.offer ready) := by
  unfold offer
  split
  · exact .refl b
  · exact ⟨pushAll_balance b.backlog ready, rfl, rfl⟩

/-- The board after a round, if the worker did not have to wait. -/
def Turn.board? : Turn → Option Bench
  | .blocked => none
  | .leave _ after => some after
  | .again after => some after

/-- The bookkeeping notes that the job is completed, and takes nothing out of the queue. -/
theorem quiet_complete (h : (b.complete job).board? = some after) :
    Quiet { b with completed := b.completed ++ [job] } after := by
  have noted (countdown : Countdown) : Quiet { b with completed := b.completed ++ [job] }
      { b with completed := b.completed ++ [job], tally := b.tally.mark, countdown } :=
    ⟨rfl, rfl, rfl⟩
  simp only [complete] at h
  split at h
  · obtain rfl := Option.some.inj h
    exact (noted b.countdown).trans (quiet_fail _ _)
  · split at h
    · obtain rfl := Option.some.inj h
      exact noted b.countdown
    · split at h
      · obtain rfl := Option.some.inj h
        exact (noted (b.countdown.finish job)).trans (quiet_fail _ _)
      · obtain rfl := Option.some.inj h
        exact (noted (b.countdown.finish job)).trans (quiet_offer _ _)

theorem complete_ne_stopped (b : Bench) (job : JobId) (after : Bench) :
    b.complete job ≠ .leave .stopped after := by
  simp only [complete]
  split
  · simp
  · split
    · simp
    · split <;> simp

/-! ## What a round takes out of the queue -/

/-- The body that a round runs, if it runs one, and how it ends. -/
def runs (table : JobId → Option Body) (b : Bench) : List (JobId × Outcome) :=
  match b.backlog.take with
  | .job job _ =>
    if b.latch.stopped then []
    else (table job).toList.map fun body => (job, body.outcome)
  | _ => []

/-- Whether a round meets a job that is in no table. -/
def misses (table : JobId → Option Body) (b : Bench) : Bool :=
  match b.backlog.take with
  | .job job _ => !b.latch.stopped && (table job).isNone
  | _ => false

/-- Some bodies were run, and some jobs were taken out of the queue besides. -/
structure Advance (b after : Bench) (runs : List (JobId × Outcome)) (lost : Nat) : Prop where
  balance : after.backlog.accepted + b.backlog.waiting.length =
    b.backlog.accepted + after.backlog.waiting.length + runs.length + lost
  started : after.started = b.started ++ runs.map (·.1)
  completed : after.completed = b.completed ++ (runs.filter (·.2 = .success)).map (·.1)

theorem Advance.trans {earlier later : List (JobId × Outcome)} {m n : Nat}
    (first : Advance b c earlier m) (second : Advance c after later n) :
    Advance b after (earlier ++ later) (m + n) := by
  have one := first.balance
  have two := second.balance
  refine ⟨?_, ?_, ?_⟩
  · rw [List.length_append]
    omega
  · rw [second.started, first.started, List.append_assoc, List.map_append]
  · rw [second.completed, first.completed, List.append_assoc, List.filter_append, List.map_append]

theorem take_balance {rest : Backlog} (found : b.backlog.take = .job job rest) :
    rest.accepted + b.backlog.waiting.length = b.backlog.accepted + rest.waiting.length + 1 := by
  obtain ⟨left, waits, rfl⟩ := Backlog.of_take_job found
  simp [waits]
  omega

/-- A job is taken and nothing else is done with it. -/
theorem advance_of_loss {rest : Backlog} (found : b.backlog.take = .job job rest)
    (quiet : Quiet { b with backlog := rest } after) : Advance b after [] 1 := by
  have took := take_balance found
  have balance := quiet.balance
  refine ⟨?_, ?_, ?_⟩
  · simp only [List.length_nil] at balance ⊢
    omega
  · simpa using quiet.started
  · simpa using quiet.completed

theorem quiet_execute (b : Bench) (worker : Nat) (job : JobId) (acts : List Act) :
    Quiet { b with started := b.started ++ [job] } (b.execute worker job acts) :=
  Quiet.trans (c := { b with started := b.started ++ [job] }.see (.started job worker))
    ⟨rfl, rfl, rfl⟩ (quiet_foldl_perform _ acts)

/-- A job is taken, its body is run, and the job is noted as completed if that succeeded. -/
theorem advance_of_run {rest : Backlog} {body : Body} {executed : Bench}
    (found : b.backlog.take = .job job rest)
    (same : { b with backlog := rest }.execute worker job body.acts = executed)
    (quiet : Quiet { executed with
      completed := executed.completed ++ if body.outcome = .success then [job] else [] } after) :
    Advance b after [(job, body.outcome)] 0 := by
  have took := take_balance found
  have ran : Quiet { b with backlog := rest, started := b.started ++ [job] } executed :=
    same ▸ quiet_execute { b with backlog := rest } worker job body.acts
  have first := ran.balance
  have second := quiet.balance
  refine ⟨?_, quiet.started.trans ran.started, ?_⟩
  · simp only [List.length_singleton] at first second ⊢
    omega
  · rw [quiet.completed, ran.completed]
    by_cases fine : body.outcome = .success
    · simp [fine]
    · simp [fine]

theorem advance_of_complete {rest : Backlog} {body : Body}
    (found : b.backlog.take = .job job rest) (fine : body.outcome = .success)
    (h : ((({ b with backlog := rest }.execute worker job body.acts).see
      (.succeeded job)).complete job).board? = some after) :
    Advance b after [(job, body.outcome)] 0 := by
  have quiet := quiet_complete h
  refine advance_of_run found rfl ⟨quiet.balance, quiet.started, ?_⟩
  rw [quiet.completed, if_pos fine]
  rfl

/-- The last round of a call. -/
theorem advance_of_leave {exit : Exit} (ends : b.turn table worker = .leave exit after) :
    Advance b after (b.runs table)
      ((if exit = .stopped then 1 else 0) + if b.misses table then 1 else 0) := by
  have round := round_turn table worker b
  generalize b.turn table worker = turn at ends round
  cases round with
  | blocks => simp at ends
  | drains found =>
    obtain ⟨rfl, rfl⟩ := Turn.leave.inj ends
    simp only [runs, misses, found]
    exact ⟨by simp, by simp, by simp⟩
  | turnsAway found stopped =>
    obtain ⟨rfl, rfl⟩ := Turn.leave.inj ends
    simpa [runs, misses, found, stopped] using advance_of_loss found (.refl _)
  | misses found running absent =>
    obtain ⟨rfl, rfl⟩ := Turn.leave.inj ends
    simpa [runs, misses, found, running, absent] using advance_of_loss found (quiet_fail _ _)
  | @fails job rest body failure found running listed failed =>
    obtain ⟨rfl, rfl⟩ := Turn.leave.inj ends
    have unsuccessful : body.outcome ≠ .success := by
      intro fine
      simp [fine, JobFailure.ofOutcome?] at failed
    have quiet := (quiet_fail ({ b with backlog := rest }.execute worker job body.acts)
      (.job failure)).trans (quiet_see _ (.failed failure.detached))
    have ran := advance_of_run found rfl
      ⟨quiet.balance, quiet.started, by simpa [unsuccessful] using quiet.completed⟩
    simpa [runs, misses, found, running, listed] using ran
  | @succeeds job rest body found running listed fine =>
    have ran := advance_of_complete found fine (congrArg Turn.board? ends)
    have unstopped : exit ≠ .stopped := by
      rintro rfl
      exact complete_ne_stopped _ _ _ ends
    simpa [runs, misses, found, running, listed, unstopped] using ran

/-- A round after which the call goes on has run a body that succeeded. -/
theorem advance_of_again (goes : b.turn table worker = .again after) :
    (∃ job, b.runs table = [(job, .success)]) ∧ Advance b after (b.runs table) 0 := by
  have round := round_turn table worker b
  generalize b.turn table worker = turn at goes round
  cases round with
  | @succeeds job rest body found running listed fine =>
    have ran := advance_of_complete found fine (congrArg Turn.board? goes)
    have alone : b.runs table = [(job, body.outcome)] := by simp [runs, found, running, listed]
    exact ⟨⟨job, fine ▸ alone⟩, alone ▸ ran⟩
  | _ => simp at goes

theorem runs_length_le (table : JobId → Option Body) (b : Bench) : (b.runs table).length ≤ 1 := by
  unfold runs
  split
  · split
    · simp
    · rename_i job rest found stopped
      cases table job <;> simp
  · simp

/-! ## Calls one after the other -/

/-- What is known of a call: how it ended, the bodies that it ran, and whether it met a job that is
in no table. -/
structure Account where
  exit : Exit
  runs : List (JobId × Outcome)
  missing : Bool
deriving DecidableEq, Repr

/-- One call of the loop. The table has bodies for the listed jobs, which may do something else at
every execution. -/
inductive Call (listed : JobId → Bool) (worker : Nat) : Bench → Account → Bench → Prop where
  | leave {b after : Bench} {table : JobId → Option Body} {exit : Exit}
      (fits : ∀ job, (table job).isSome = listed job)
      (ends : b.turn table worker = .leave exit after) :
      Call listed worker b ⟨exit, b.runs table, b.misses table⟩ after
  | again {b next after : Bench} {table : JobId → Option Body} {account : Account}
      (fits : ∀ job, (table job).isSome = listed job)
      (goes : b.turn table worker = .again next)
      (rest : Call listed worker next account after) :
      Call listed worker b { account with runs := b.runs table ++ account.runs } after

/-- Calls of several workers, one after the other, each of which returns. -/
inductive Calls (listed : JobId → Bool) (b : Bench) : List Account → Bench → Prop where
  | start : Calls listed b [] b
  | call {worker : Nat} {accounts : List Account} {account : Account} {mid after : Bench}
      (before : Calls listed b accounts mid) (call : Call listed worker mid account after) :
      Calls listed b (accounts ++ [account]) after

/-- How many jobs a call took out of the queue without running their bodies. -/
def Account.lost (account : Account) : Nat :=
  (if account.exit = .stopped then 1 else 0) + if account.missing then 1 else 0

section
variable {listed : JobId → Bool} {account : Account} {accounts : List Account}

theorem Call.advance (call : Call listed worker b account after) :
    Advance b after account.runs account.lost := by
  induction call with
  | leave _ ends => exact advance_of_leave ends
  | again _ goes _ ih =>
    have both := (advance_of_again goes).2.trans ih
    rwa [Nat.zero_add] at both

/-- Only the last body of a call may fail. -/
theorem Call.earlier_succeed (call : Call listed worker b account after) :
    ∀ run ∈ account.runs.dropLast, run.2 = .success := by
  induction call with
  | @leave b _ table _ _ _ =>
    intro run member
    have few := runs_length_le table b
    have none : (b.runs table).dropLast = [] :=
      List.eq_nil_of_length_eq_zero (by rw [List.length_dropLast]; omega)
    simp [none] at member
  | @again _ _ _ _ account _ goes _ ih =>
    obtain ⟨⟨job, alone⟩, -⟩ := advance_of_again goes
    intro run member
    rw [alone, List.singleton_append] at member
    cases later : account.runs with
    | nil => simp [later] at member
    | cons next others =>
      rw [List.dropLast_cons_of_ne_nil (by simp [later])] at member
      obtain rfl | inside := List.mem_cons.mp member
      · rfl
      · exact ih run inside

/-- Only a call that fails has met a job that is in no table. -/
theorem Call.failed_of_missing (call : Call listed worker b account after)
    (missing : account.missing = true) : account.exit = .failed := by
  induction call with
  | again _ _ _ ih => exact ih missing
  | @leave b after table exit _ ends =>
    have round := round_turn table worker b
    generalize b.turn table worker = turn at ends round
    cases round with
    | misses => exact (Turn.leave.inj ends).1.symm
    | blocks => simp at ends
    | drains found => simp [Bench.misses, found] at missing
    | turnsAway found stopped => simp [Bench.misses, found, stopped] at missing
    | fails found running listed | succeeds found running listed =>
      simp [Bench.misses, found, running, listed] at missing

theorem Calls.advance (calls : Calls listed b accounts after) :
    Advance b after (accounts.flatMap Account.runs) (accounts.map Account.lost).sum := by
  induction calls with
  | start => exact ⟨by simp, by simp, by simp⟩
  | call _ call ih => simpa using ih.trans call.advance

theorem Calls.each (calls : Calls listed b accounts after) : ∀ account ∈ accounts,
    (∀ run ∈ account.runs.dropLast, run.2 = .success) ∧
      (account.missing = true → account.exit = .failed) := by
  induction calls with
  | start => simp
  | call _ call ih =>
    intro account member
    obtain before | last := List.mem_append.mp member
    · exact ih account before
    · obtain rfl := List.mem_singleton.mp last
      exact ⟨call.earlier_succeed, call.failed_of_missing⟩

/-- A board on which jobs were seeded, for a graph, a total and a latch of any kind. -/
def seeded (seeds : List JobId) (closed : Bool) (countdown : Countdown) (tally : Tally)
    (latch : StopLatch) : Bench where
  backlog := { ({} : Backlog).pushAll seeds with closed }
  countdown
  tally
  latch

/-- How the board accounts for the jobs after some calls. -/
structure Settled (accounts : List Account) (b : Bench) : Prop where
  /-- Every accepted job waits, was started, or was taken by a call that was stopped or found it in
  no table. -/
  pushed : b.backlog.accepted = b.backlog.waiting.length + b.started.length +
    accounts.countP (·.exit = .stopped) + accounts.countP (·.missing)
  /-- The jobs of the bodies that were run are started, and those of the bodies that succeeded are
  completed. -/
  started : b.started = (accounts.flatMap Account.runs).map (·.1)
  completed : b.completed =
    ((accounts.flatMap Account.runs).filter (·.2 = .success)).map (·.1)
  subsequence : b.completed.Sublist b.started
  /-- At most one body of a call fails, and it is the last. -/
  failing : ∀ account ∈ accounts, ∀ run ∈ account.runs.dropLast, run.2 = .success
  missed : ∀ account ∈ accounts, account.missing = true → account.exit = .failed

theorem sum_lost (accounts : List Account) : (accounts.map Account.lost).sum =
    accounts.countP (·.exit = .stopped) + accounts.countP (·.missing) := by
  induction accounts with
  | nil => rfl
  | cons account rest ih =>
    simp only [List.map_cons, List.sum_cons, ih, List.countP_cons, Account.lost, decide_eq_true_eq]
    omega

theorem Calls.settled {seeds : List JobId} {closed : Bool} {countdown : Countdown}
    {tally : Tally} {latch : StopLatch}
    (calls : Calls listed (seeded seeds closed countdown tally latch) accounts after) :
    Settled accounts after := by
  obtain ⟨balance, started, completed⟩ := calls.advance
  have each := calls.each
  have seeding := pushAll_balance {} seeds
  simp only [seeded, List.nil_append, List.length_nil] at balance started completed seeding
  refine ⟨?_, started, completed, ?_, fun account member => (each account member).1,
    fun account member => (each account member).2⟩
  · rw [started, List.length_map]
    rw [sum_lost] at balance
    omega
  · rw [started, completed]
    exact List.filter_sublist.map _

theorem loop_eq (table : JobId → Option Body) (worker : Nat) (b : Bench) :
    b.loop table worker =
      match b.turn table worker with
      | .blocked => none
      | .leave exit after => some (exit, after)
      | .again next => next.loop table worker := by
  rw [loop]
  split <;> simp [*]

/-- A loop that comes to its end is a call. -/
theorem Call.of_loop (table : JobId → Option Body) {exit : Exit}
    (h : b.loop table worker = some (exit, after)) : ∃ account, account.exit = exit ∧
      Call (fun job => (table job).isSome) worker b account after := by
  induction b using loop.induct table worker with
  | case1 b waits => simp [loop_eq, waits] at h
  | case2 b exit' after' ends =>
    obtain ⟨rfl, rfl⟩ : exit' = exit ∧ after' = after := by simpa [loop_eq, ends] using h
    exact ⟨_, rfl, .leave (fun _ => rfl) ends⟩
  | case3 b next goes ih =>
    rw [loop_eq, goes] at h
    obtain ⟨account, same, call⟩ := ih h
    exact ⟨{ account with runs := b.runs table ++ account.runs }, same,
      .again (fun _ => rfl) goes call⟩

/-- Loops of which each comes to its end are calls one after the other. -/
theorem Calls.of_loops (table : JobId → Option Body) {start mid : Bench} {workers : List Nat}
    {accounts : List Account} {exits : List Exit}
    (before : Calls (fun job => (table job).isSome) start accounts mid)
    (h : mid.loops table workers = (exits.map some, after)) :
    ∃ more, more.map Account.exit = exits ∧
      Calls (fun job => (table job).isSome) start (accounts ++ more) after := by
  induction workers generalizing mid accounts exits with
  | nil =>
    obtain ⟨none, rfl⟩ := Prod.mk.inj h
    obtain rfl : exits = [] := by simpa using none.symm
    exact ⟨[], rfl, by simpa using before⟩
  | cons worker rest ih =>
    cases looped : mid.loop table worker with
    | none =>
      simp only [loops, looped] at h
      obtain ⟨noted, -⟩ := Prod.mk.inj h
      cases exits <;> simp at noted
    | some result =>
      obtain ⟨exit, next⟩ := result
      simp only [loops, looped] at h
      obtain ⟨noted, rfl⟩ := Prod.mk.inj h
      cases exits with
      | nil => simp at noted
      | cons first others =>
        obtain ⟨same, later⟩ := List.cons.inj noted
        obtain rfl := Option.some.inj same
        obtain ⟨account, rfl, call⟩ := Call.of_loop table looped
        obtain ⟨more, rfl, calls⟩ := ih (before.call call) (Prod.ext later rfl)
        exact ⟨account :: more, rfl, by simpa using calls⟩

/-- Whatever the graph, the table, the seeds and the total are, and whatever the bodies do to the
board, every job that the queue has accepted is accounted for at the end of each call. This holds of
loops that run one after the other in particular. -/
theorem calls_account_for_jobs (seeds : List JobId) (closed : Bool) (countdown : Countdown)
    (tally : Tally) (latch : StopLatch) :
    (∀ listed accounts after,
      Calls listed (seeded seeds closed countdown tally latch) accounts after →
      Settled accounts after) ∧
    ∀ table workers exits after, (seeded seeds closed countdown tally latch).loops table workers =
        (exits.map some, after) →
      ∃ accounts, accounts.map Account.exit = exits ∧ Settled accounts after := by
  refine ⟨fun _ _ _ calls => calls.settled, fun table workers exits after looped => ?_⟩
  obtain ⟨accounts, same, calls⟩ := Calls.of_loops table .start looped
  exact ⟨accounts, same, calls.settled⟩

end

end

/-- The first job pushes the second one, which panics. -/
def eagerTable (job : JobId) : Option Body :=
  if job = ⟨"a"⟩ then some { acts := [.push ⟨"b"⟩] }
  else if job = ⟨"b"⟩ then some { outcome := .panic "boom" }
  else none

/-- The first job is seeded twice, and then one that is in no table. -/
def eager : Bench :=
  seeded [⟨"a"⟩, ⟨"a"⟩, ⟨"c"⟩] false (.start ⟨[⟨"a"⟩], [], [⟨"a"⟩]⟩) ⟨9, 0⟩ {}

/-- A worker runs the first job twice and then fails on the last one, and another worker is stopped
by that. Of the five jobs that the queue has accepted, one still waits. -/
theorem eager_calls_account_for_jobs : ∃ accounts after,
    Calls (fun job => (eagerTable job).isSome) eager accounts after ∧
      accounts.map Account.exit = [.failed, .stopped] ∧ after.backlog.accepted = 5 ∧
      after.backlog.waiting = [⟨"b"⟩] ∧ Settled accounts after := by
  have fails : Call (fun job => (eagerTable job).isSome) 0 eager _ _ :=
    .again (fun _ => rfl) (show eager.turn eagerTable 0 = .again _ from rfl)
      (.again (fun _ => rfl) rfl (.leave (fun _ => rfl) rfl))
  have calls := (Calls.start.call fails).call
    (@Call.leave _ 1 _ _ eagerTable _ (fun _ => rfl) rfl)
  exact ⟨_, _, calls, rfl, rfl, rfl, (calls_account_for_jobs _ _ _ _ _).1 _ _ _ calls⟩

end Precedence.Bench

import Precedence.Job
/-!
# The ready queue

Jobs that may start, first in, first out. Once the queue is closed it accepts no more jobs, but
those that wait in it can still be taken.
-/

namespace Precedence

structure Backlog where
  waiting : List JobId := []
  closed : Bool := false
  /-- Jobs accepted over the lifetime of the queue. -/
  accepted : Nat := 0
deriving DecidableEq, Repr

namespace Backlog

/-- Appends a job, unless the queue is closed. -/
def push (q : Backlog) (job : JobId) : Backlog :=
  if q.closed then q else { q with waiting := q.waiting ++ [job], accepted := q.accepted + 1 }

def accepts (q : Backlog) : Bool := !q.closed

def close (q : Backlog) : Backlog := { q with closed := true }

/-- What a consumer finds: a job, the end, or nothing yet. -/
inductive Take where
  | job (id : JobId) (rest : Backlog)
  | ended
  | blocked
deriving DecidableEq, Repr

def take (q : Backlog) : Take :=
  match q.waiting with
  | job :: rest => .job job { q with waiting := rest }
  | [] => if q.closed then .ended else .blocked

section
variable {q left : Backlog} {job : JobId}

theorem push_of_open (opened : q.closed = false) (job : JobId) :
    q.push job = { q with waiting := q.waiting ++ [job], accepted := q.accepted + 1 } := by
  simp [push, opened]

theorem push_of_closed (closed : q.closed = true) (job : JobId) : q.push job = q := if_pos closed

theorem of_take_job (found : q.take = .job job left) :
    ∃ rest, q.waiting = job :: rest ∧ left = { q with waiting := rest } := by
  unfold take at found
  split at found
  · rename_i first rest waits
    injection found with same others
    exact ⟨rest, same ▸ waits, others.symm⟩
  · split at found <;> simp at found

theorem of_take_ended (found : q.take = .ended) : q.waiting = [] ∧ q.closed = true := by
  unfold take at found
  split at found
  · simp at found
  · rename_i empty
    split at found
    · rename_i closed
      exact ⟨empty, closed⟩
    · simp at found

theorem of_take_blocked (found : q.take = .blocked) : q.waiting = [] ∧ q.closed = false := by
  unfold take at found
  split at found
  · simp at found
  · rename_i empty
    split at found
    · simp at found
    · rename_i opened
      exact ⟨empty, Bool.eq_false_iff.mpr opened⟩

end

def pushAll (q : Backlog) (jobs : List JobId) : Backlog := jobs.foldl push q

theorem pushAll_of_open {q : Backlog} (opened : q.closed = false) (jobs : List JobId) :
    q.pushAll jobs = { q with
      waiting := q.waiting ++ jobs, accepted := q.accepted + jobs.length } := by
  induction jobs generalizing q with
  | nil => simp [pushAll]
  | cons job rest ih =>
    have := ih (q := q.push job) (by simp [push, opened])
    simp only [pushAll, List.foldl_cons] at this ⊢
    rw [this]
    simp [push, opened]
    omega

/-- What `n` consumers take that take one job each, while `jobs` are pushed and then, if `closing`,
the queue is closed. There is an answer only if every consumer gets a job or sees the end; it does
not depend on who takes when. -/
def serve (q : Backlog) (n : Nat) (jobs : List JobId) (closing : Bool) :
    Option (List (Option JobId) × Backlog) :=
  let q := q.pushAll jobs
  let q := if closing then q.close else q
  if q.closed || n ≤ q.waiting.length then
    let taken := q.waiting.take n
    some (taken.map some ++ List.replicate (n - taken.length) none,
      { q with waiting := q.waiting.drop n })
  else none

end Backlog

end Precedence

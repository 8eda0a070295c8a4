import Precedence.Depot
import Precedence.Proofs.Crowd
/-!
# What the lock of the queue saw

Calls of several threads overlap, and a pop may sleep in the middle. But a thread looks at the queue
only while it holds the lock, and what it does there is one turn. What the lock saw are such turns,
one after the other, on a queue that nobody else touches meanwhile (`Trail.turns`). So what the
threads make of the queue together follows from sequences of turns: jobs leave in the order in which
they were accepted, none is accepted once the queue was closed, only the first close is told that it
was, and a pop returns nothing only after the queue was closed and everything in it was popped
(`pops_follow_pushes`).
-/

namespace Precedence.Depot

/-- What a call does while it holds the lock: the queue that it finds, what is noted, and the queue
that it leaves. -/
inductive Turn : Backlog → Entry → Backlog → Prop where
  | pushes {q : Backlog} (opened : q.closed = false) (job : JobId) :
      Turn q (.pushed job true) (q.push job)
  | isRefused {q : Backlog} (closed : q.closed = true) (job : JobId) : Turn q (.pushed job false) q
  | takes {q left : Backlog} {job : JobId} (found : q.take = .job job left) :
      Turn q (.popped (some job)) left
  | ends {q : Backlog} (found : q.take = .ended) : Turn q (.popped none) q
  | closes {q : Backlog} : Turn q (.closed q.accepts) q.close

/-- Turns one after the other. -/
abbrev Turns := History Turn

/-- The call that comes to this. -/
def Entry.call : Entry → Call
  | .pushed job _ => .push job
  | .popped _ => .pop
  | .closed _ => .close

/-- The call that a thread is in the middle of, as long as it is not decided. -/
def Stand.under : Stand → List Call
  | .parked => [.pop]
  | .free | .notifying | .broadcasting => []

section
variable {q left : Backlog} {entries : List Entry} {job : JobId}

@[simp] theorem accepted_nil : accepted [] = [] := rfl
@[simp] theorem results_nil : results [] = [] := rfl
@[simp] theorem taken_nil : taken [] = [] := rfl

@[simp] theorem accepted_pushed (open_ : Bool) : accepted (.pushed job open_ :: entries) =
    (if open_ then [job] else []) ++ accepted entries := by
  cases open_ <;> rfl

@[simp] theorem accepted_popped (found : Option JobId) :
    accepted (.popped found :: entries) = accepted entries := rfl
@[simp] theorem accepted_closed (first : Bool) :
    accepted (.closed first :: entries) = accepted entries := rfl
@[simp] theorem results_pushed (open_ : Bool) :
    results (.pushed job open_ :: entries) = results entries := rfl
@[simp] theorem results_popped (found : Option JobId) :
    results (.popped found :: entries) = found :: results entries := rfl
@[simp] theorem results_closed (first : Bool) :
    results (.closed first :: entries) = results entries := rfl
@[simp] theorem taken_pushed (open_ : Bool) :
    taken (.pushed job open_ :: entries) = taken entries := rfl

@[simp] theorem taken_popped (found : Option JobId) :
    taken (.popped found :: entries) = found.toList ++ taken entries := by
  cases found <;> rfl

@[simp] theorem taken_closed (first : Bool) :
    taken (.closed first :: entries) = taken entries := rfl

theorem accepted_append (before after : List Entry) :
    accepted (before ++ after) = accepted before ++ accepted after := List.filterMap_append

theorem results_append (before after : List Entry) :
    results (before ++ after) = results before ++ results after := List.filterMap_append

theorem accepted_eq_nil (refused : ∀ job, .pushed job true ∉ entries) : accepted entries = [] := by
  refine List.filterMap_eq_nil_iff.mpr fun entry member => ?_
  match entry with
  | .pushed job true => exact absurd member (refused job)
  | .pushed _ false | .popped _ | .closed _ => rfl

namespace Turns

/-- Jobs are popped in the order in which they were accepted. -/
theorem conserved (turns : Turns q entries left) :
    taken entries ++ left.waiting = q.waiting ++ accepted entries := by
  induction turns with
  | nil => simp
  | cons turn _ ih =>
    cases turn with
    | pushes opened =>
      rw [Backlog.push_of_open opened] at ih
      simpa using ih
    | isRefused => simpa using ih
    | takes found =>
      obtain ⟨rest, waits, rfl⟩ := Backlog.of_take_job found
      simpa [waits] using ih
    | ends => simpa using ih
    | closes => simpa [Backlog.close] using ih

theorem counted (turns : Turns q entries left) :
    left.accepted = q.accepted + (accepted entries).length := by
  induction turns with
  | nil => rfl
  | cons turn _ ih =>
    rw [ih]
    cases turn with
    | pushes opened =>
      rw [Backlog.push_of_open opened]
      simp [Nat.add_assoc, Nat.add_comm 1]
    | takes found =>
      obtain ⟨rest, -, rfl⟩ := Backlog.of_take_job found
      rfl
    | _ => simp [Backlog.close]

/-- A queue is closed if it was, or if somebody closed it. -/
theorem closed_iff (turns : Turns q entries left) :
    left.closed = true ↔ q.closed = true ∨ ∃ first, .closed first ∈ entries := by
  induction turns with
  | nil => simp
  | cons turn _ ih =>
    rw [ih]
    cases turn with
    | pushes opened => simp [Backlog.push_of_open opened]
    | takes found =>
      obtain ⟨rest, -, rfl⟩ := Backlog.of_take_job found
      simp
    | isRefused | ends => simp
    | closes => simp [Backlog.close]

/-- A closed queue accepts nothing, and says of no close that it was the first. -/
theorem refused (turns : Turns q entries left) (closed : q.closed = true) :
    (∀ job, .pushed job true ∉ entries) ∧ .closed true ∉ entries := by
  induction turns with
  | nil => simp
  | cons turn _ ih =>
    cases turn with
    | pushes opened => simp [opened] at closed
    | takes found =>
      obtain ⟨rest, -, rfl⟩ := Backlog.of_take_job found
      simpa using ih closed
    | isRefused | ends => simpa using ih closed
    | closes => simpa [Backlog.accepts, closed] using ih rfl

/-- Of all closes of an open queue just one is the first. -/
theorem count_closed (turns : Turns q entries left) (opened : q.closed = false)
    (closed : left.closed = true) : entries.count (.closed true) = 1 := by
  induction turns with
  | nil => simp [opened] at closed
  | cons turn later ih =>
    cases turn with
    | pushes =>
      rw [List.count_cons_of_ne (by simp)]
      exact ih (by simp [Backlog.push_of_open opened, opened]) closed
    | isRefused refuses => simp [opened] at refuses
    | takes found =>
      obtain ⟨rest, -, rfl⟩ := Backlog.of_take_job found
      rw [List.count_cons_of_ne (by simp)]
      exact ih opened closed
    | ends found =>
      have closed := (Backlog.of_take_ended found).2
      simp [opened] at closed
    | closes =>
      have none := (refused later rfl).2
      simp [Backlog.accepts, opened, List.count_eq_zero_of_not_mem none]

/-- Nothing comes out of an empty queue that is closed. -/
theorem dry (turns : Turns q entries left) (empty : q.waiting = []) (closed : q.closed = true) :
    ∀ found, .popped found ∈ entries → found = none := by
  induction turns with
  | nil => simp
  | cons turn _ ih =>
    cases turn with
    | pushes opened => simp [opened] at closed
    | takes found =>
      obtain ⟨rest, waits, -⟩ := Backlog.of_take_job found
      simp [empty] at waits
    | isRefused | ends => simpa using ih empty closed
    | closes => simpa using ih empty rfl

/-- Only the last pops return nothing, when the queue is empty for good. -/
theorem results_eq (turns : Turns q entries left) :
    ∃ k, results entries = (taken entries).map some ++ List.replicate k none ∧
      (0 < k → left.waiting = [] ∧ left.closed = true) := by
  induction turns with
  | nil => exact ⟨0, rfl, by simp⟩
  | cons turn later ih =>
    obtain ⟨k, shape, last⟩ := ih
    cases turn with
    | pushes | isRefused | takes | closes => exact ⟨k, by simpa using shape, last⟩
    | ends found =>
      obtain ⟨empty, closed⟩ := Backlog.of_take_ended found
      have all := conserved later
      rw [empty, accepted_eq_nil (refused later closed).1, List.nil_append,
        List.append_eq_nil_iff] at all
      obtain ⟨none, idle⟩ := all
      refine ⟨k + 1, ?_, fun _ => ⟨idle, (closed_iff later).mpr (.inl closed)⟩⟩
      simp [shape, none, List.replicate_succ]

end Turns

end

/-! ## The turns of a depot -/

section
variable {q : Backlog} {s : Clients} {scripts : List (List Call)} {place steps strays : Nat}
  {c d : Thread Stand Call} {note : Option Entry} {shared : Depot}

/-- An action leaves the queue alone, or it takes a turn. -/
theorem Act.turn {s : Depot} (acts : Act place s c note shared d) :
    note = none ∧ shared.backlog = s.backlog ∨
      ∃ entry, note = some entry ∧ Turn s.backlog entry shared.backlog := by
  cases acts with
  | pushes opened => exact .inr ⟨_, rfl, .pushes opened _⟩
  | isRefused closed =>
    rw [Backlog.push_of_closed closed]
    exact .inr ⟨_, rfl, .isRefused closed _⟩
  | takes _ found => exact .inr ⟨_, rfl, .takes found⟩
  | ends _ found => exact .inr ⟨_, rfl, .ends found⟩
  | closes => exact .inr ⟨_, rfl, .closes⟩
  | _ => exact .inl ⟨rfl, rfl⟩

theorem Trail.turns (trail : protocol.Trail (start q scripts) steps strays s) :
    Turns q s.seen s.shared.backlog := by
  refine trail.invariant (I := fun s => Turns q s.seen s.shared.backlog) .nil ?_ ?_
  · intro t place c d note shared ih _ acts
    obtain ⟨rfl, same⟩ | ⟨entry, rfl, turn⟩ := Act.turn acts
    · rw [Crowd.after_shared, same]
      simpa using ih
    · rw [Crowd.seen_after]
      exact ih.concat turn
  · intro t shared ih stray
    cases stray with
    | wakes => exact ih

theorem orderly : protocol.Orderly Entry.call Stand.under := by
  intro place shared c note shared' d acts
  cases acts with
  | takes looks | ends looks | parks looks => cases looks <;> rfl
  | _ => rfl

end

/-- However the calls of any number of threads on a new queue interleave, at any time the jobs that
were popped, followed by those that wait, are the jobs whose pushes were accepted, in this order,
and the queue has counted them. Nothing is accepted once the queue was closed, and of all closes
just one is told that it was the first. A pop returns nothing only if the queue was closed before
and all jobs it ever accepted were popped, and after that no pop returns a job. Each thread makes
its calls in their order. -/
theorem pops_follow_pushes {scripts : List (List Call)} {steps strays : Nat} {s : Clients}
    (trail : protocol.Trail (start {} scripts) steps strays s) :
    taken s.seen ++ s.shared.backlog.waiting = accepted s.seen ∧
    s.shared.backlog.accepted = (accepted s.seen).length ∧
    (∀ before first after, s.seen = before ++ .closed first :: after →
      ∀ job, .pushed job true ∉ after) ∧
    ((∃ first, .closed first ∈ s.seen) → s.seen.count (.closed true) = 1) ∧
    (∀ before after, s.seen = before ++ .popped none :: after →
      (∃ first, .closed first ∈ before) ∧ taken before = accepted before ∧
        (∀ job, .pushed job true ∉ after) ∧ ∀ found, .popped found ∈ after → found = none) ∧
    ∀ place script, scripts[place]? = some script →
      (s.doneBy place).map Entry.call <+: script := by
  have turns := Trail.turns trail
  refine ⟨turns.conserved, by simpa using turns.counted, ?_, ?_, ?_, ?_⟩
  · intro before first after split
    rw [split] at turns
    obtain ⟨q, r, -, turn, later⟩ := turns.at_turn
    cases turn with
    | closes => exact (Turns.refused later rfl).1
  · intro closes
    exact turns.count_closed rfl (turns.closed_iff.mpr (.inr closes))
  · intro before after split
    rw [split] at turns
    obtain ⟨q, r, earlier, turn, later⟩ := turns.at_turn
    cases turn with
    | ends found =>
      obtain ⟨empty, closed⟩ := Backlog.of_take_ended found
      refine ⟨by simpa using (Turns.closed_iff earlier).mp closed, ?_,
        (Turns.refused later closed).1, Turns.dry later empty closed⟩
      simpa [empty] using Turns.conserved earlier
  · intro place script given
    exact trail.calls_prefix orderly rfl given

/-- One thread falls asleep in a pop, another one pushes a job, closes the queue, and tries both
again. The job outlives the close, and the second pop returns nothing. -/
theorem job_outlives_close :
    let scripts := [[.pop, .pop], [.push ⟨"x"⟩, .close, .push ⟨"y"⟩, .close]]
    ∃ s, protocol.Trail (start {} scripts) 9 0 s ∧
      s.entries = [(1, .pushed ⟨"x"⟩ true), (1, .closed true), (0, .popped (some ⟨"x"⟩)),
        (1, .pushed ⟨"y"⟩ false), (0, .popped none), (1, .closed false)] ∧
      taken s.seen ++ s.shared.backlog.waiting = accepted s.seen ∧
      s.seen.count (.closed true) = 1 := by
  intro scripts
  have begins : protocol.Trail (start {} scripts) 0 0 _ := .start
  have sleeps := begins.act 0 rfl (.parks .first rfl)
  have notified := (sleeps.act 1 rfl (.pushes rfl)).act 1 rfl (@Act.notifies _ _ _ 0 (by decide))
  have closed := (notified.act 1 rfl .closes).act 1 rfl .broadcasts
  have takes := closed.act 0 rfl (.takes (.again (by decide)) rfl)
  have ends := (takes.act 1 rfl (.isRefused rfl)).act 0 rfl (.ends .first rfl)
  have again := ends.act 1 rfl .closes
  obtain ⟨conserved, -, -, once, -⟩ := pops_follow_pushes again
  exact ⟨_, again, rfl, conserved, once ⟨true, by decide⟩⟩

end Precedence.Depot

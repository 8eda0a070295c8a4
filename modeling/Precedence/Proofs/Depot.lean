import Mathlib.Tactic.ByContra
import Precedence.Proofs.Depot.History
/-!
# No wakeup of the queue is lost

As long as some thread is asleep, at least as many wakeups are under way as jobs wait: one for each
thread that is awake again in its pop, and one for each that is about to notify. If the queue is
closed while a thread is asleep, some thread is about to wake them all. Every action keeps this
(`Alert`), although notifications are sent outside the lock and may wake a thread whose job another
one takes. So nobody sleeps while there is work and no wakeup is under way (`Alert.not_stranded`).

A thread that waits is therefore served in the end. When `n` threads pop once each while jobs are
pushed, every pop returns, and what they return does not depend on the order in which the threads
act (`pops_return_in_any_order`): the queue hands out its jobs first in, first out, and says that
there are no more only when it is empty for good.
-/

namespace Precedence.Depot

/-- Counts whoever is in a pop, and whoever is about to notify. -/
def alert (c : Thread Stand Call) : Nat :=
  match c.stand with
  | .parked | .notifying => 1
  | .free | .broadcasting => 0

/-- How many pops a thread is in, or has yet to make. -/
def pops (c : Thread Stand Call) : Nat := (c.stand.under ++ c.calls).count .pop

/-- Some thread is asleep although there is something for it to find, and no wakeup is under way:
all others are between two calls. -/
structure Stranded (s : Clients) : Prop where
  asleep : s.shared.asleep ≠ []
  silent : ∀ i c, s.threads[i]? = some c → c.stand = .free ∨ i ∈ s.shared.asleep
  ready : s.shared.backlog.waiting ≠ [] ∨ s.shared.backlog.closed = true

section
variable {q : Backlog} {s t : Clients} {scripts : List (List Call)} {place steps strays : Nat}
  {c d : Thread Stand Call} {note : Option Entry} {shared : Depot}

theorem restful : protocol.Restful asleep .parked where
  awake acts := by
    cases acts with
    | takes looks | ends looks | parks looks =>
      cases looks with
      | first => simp
      | again awake => exact fun _ => awake
    | _ => simp
  act acts := by
    cases acts with
    | parks => exact .inr ⟨rfl, rfl⟩
    | notifies => exact .inl List.erase_sublist
    | broadcasts => exact .inl (List.nil_sublist _)
    | _ => exact .inl (List.Sublist.refl _)
  stray stray := by
    cases stray with
    | wakes => exact List.erase_sublist

theorem Trail.sleepers (trail : protocol.Trail (start q scripts) steps strays s) :
    Protocol.Sleepers asleep .parked s :=
  Protocol.Trail.sleepers restful (.start rfl) trail

/-! ## Who wakes those who sleep -/

structure Alert (s : Clients) : Prop where
  closed : s.shared.backlog.closed = true → s.shared.asleep ≠ [] → s.Occupied .broadcasting
  waiting : s.shared.asleep ≠ [] →
    s.shared.backlog.waiting.length + s.shared.asleep.length ≤ s.total alert

theorem alert_start : Alert (start q scripts) where
  closed _ somebody := absurd rfl somebody
  waiting somebody := absurd rfl somebody

namespace Alert

variable (h : Alert s)
include h

theorem act_closed (standing : s.threads[place]? = some c)
    (acts : Act place s.shared c note shared d) (closed : shared.backlog.closed = true)
    (somebody : shared.asleep ≠ []) : (s.after place note shared d).Occupied .broadcasting := by
  have kept (before : s.shared.backlog.closed = true) (asleep : s.shared.asleep ≠ [])
      (other : c.stand ≠ .broadcasting) (now : d.stand ≠ .broadcasting) :
      (s.after place note shared d).Occupied .broadcasting :=
    (Crowd.occupied_after_iff standing other now).mpr (h.closed before asleep)
  cases acts with
  | pushes opened => simp [Backlog.push_of_open opened, opened] at closed
  | isRefused refuses => exact kept refuses somebody (by simp) (by simp)
  | takes looks found =>
    obtain ⟨left, -, rfl⟩ := Backlog.of_take_job found
    exact kept closed somebody (by cases looks <;> simp) (by simp)
  | ends looks => exact kept closed somebody (by cases looks <;> simp) (by simp)
  | parks _ found => simp [(Backlog.of_take_blocked found).2] at closed
  | closes => exact ⟨place, _, Crowd.arrived standing, rfl⟩
  | notifies asleep => exact kept closed (List.ne_nil_of_mem asleep) (by simp) (by simp)
  | notifiesNobody => exact kept closed somebody (by simp) (by simp)
  | broadcasts => exact absurd rfl somebody

theorem act_waiting (sleepers : Protocol.Sleepers asleep .parked (s.after place note shared d))
    (standing : s.threads[place]? = some c) (acts : Act place s.shared c note shared d)
    (somebody : shared.asleep ≠ []) :
    shared.backlog.waiting.length + shared.asleep.length ≤
      (s.after place note shared d).total alert := by
  have moved := @Crowd.total_after _ _ _ _ _ _ _ d note shared standing alert
  -- whoever is asleep is in a pop
  have asleep : 1 * shared.asleep.length ≤ (s.after place note shared d).total alert :=
    sleepers.mul_length_le_total fun c parked => by simp [alert, parked]
  cases acts with
  | pushes opened =>
    have before := h.waiting somebody
    simp [alert, Backlog.push_of_open opened] at moved ⊢
    omega
  | isRefused refuses =>
    have before := h.waiting somebody
    simp [alert, Backlog.push_of_closed refuses] at moved ⊢
    omega
  | takes looks found =>
    obtain ⟨left, waits, rfl⟩ := Backlog.of_take_job found
    have before := h.waiting somebody
    cases looks <;> simp [alert, waits] at before moved ⊢ <;> omega
  | ends _ found => simpa [(Backlog.of_take_ended found).1] using asleep
  | parks _ found => simpa [(Backlog.of_take_blocked found).1] using asleep
  | closes =>
    have before := h.waiting somebody
    simp [alert, Backlog.close] at moved ⊢
    omega
  | @notifies _ other member =>
    have before := h.waiting (List.ne_nil_of_mem member)
    have some := List.length_pos_of_mem member
    have fewer : (s.shared.asleep.erase other).length = s.shared.asleep.length - 1 :=
      List.length_erase_of_mem member
    simp [alert] at moved ⊢
    omega
  | notifiesNobody nobody => exact absurd nobody somebody
  | broadcasts => exact absurd rfl somebody

theorem stray (stray : Stray s.shared shared) : Alert { s with shared } := by
  cases stray with
  | @wakes other member =>
    have before := h.waiting (List.ne_nil_of_mem member)
    refine ⟨fun closed _ => h.closed closed (List.ne_nil_of_mem member), fun _ => ?_⟩
    have less : (s.shared.asleep.erase other).length ≤ s.shared.asleep.length :=
      List.length_erase_le
    exact Nat.le_trans (Nat.add_le_add_left less _) before

theorem not_stranded (sleepers : Protocol.Sleepers asleep .parked s) : ¬ Stranded s := by
  rintro ⟨somebody, silent, ready⟩
  obtain waits | closed := ready
  · -- whoever is in a pop is asleep, and nobody is about to notify
    have few : s.total alert ≤ s.shared.asleep.length := by
      refine sum_le_length (fun {i v} at_ => ?_) fun {i v} at_ awake => ?_
      all_goals
        rw [List.getElem?_map, Option.map_eq_some_iff] at at_
        obtain ⟨c, there, rfl⟩ := at_
      · unfold alert
        split <;> omega
      · have free := (silent i c there).resolve_right awake
        simp [alert, free]
    have before := h.waiting somebody
    have some := List.length_pos_iff.mpr waits
    omega
  · obtain ⟨i, c, there, wakes⟩ := h.closed closed somebody
    obtain free | member := silent i c there
    · simp [free] at wakes
    · obtain ⟨x, there', parked⟩ := sleepers.parked member
      obtain rfl := Option.some.inj (there.symm.trans there')
      simp [parked] at wakes

end Alert

theorem Trail.alert (trail : protocol.Trail (start q scripts) steps strays s) : Alert s := by
  induction trail with
  | start => exact alert_start
  | step before step ih =>
    have sleepers := Trail.sleepers (before.step step)
    cases step with
    | act standing acts =>
      exact ⟨ih.act_closed standing acts, ih.act_waiting sleepers standing acts⟩
  | stray _ stray ih => exact ih.stray stray

/-! ## How many pops are left -/

theorem length_results (entries : List Entry) :
    (results entries).length = (entries.map Entry.call).count .pop := by
  induction entries with
  | nil => rfl
  | cons entry rest ih => cases entry <;> simp [ih, Entry.call]

theorem Trail.total_pops (trail : protocol.Trail (start q scripts) steps strays s) :
    s.total pops + (results s.seen).length = (start q scripts).total pops := by
  refine trail.invariant (I := fun s => s.total pops + (results s.seen).length = _) rfl ?_
    fun ih _ => ih
  intro t place c d note shared ih standing acts
  have moved := @Crowd.total_after _ _ _ _ _ _ _ d note shared standing pops
  -- a pop that comes to something is one of its thread
  have own := congrArg (List.count .pop) (orderly acts)
  rw [List.count_append] at own
  rw [Crowd.seen_after, results_append, List.length_append, length_results note.toList]
  unfold pops at moved ih ⊢
  omega

/-! ## How long it takes -/

/-- What is left to do for a thread among `n` of them. -/
def Stand.effort (n : Nat) : Stand → Nat
  | .free => 0
  | .parked => 1
  | .notifying => 2
  | .broadcasting => n + 1

def Call.effort (n : Nat) : Call → Nat
  | .pop => 1
  | .push _ => 3
  | .close => n + 2

def effort (n : Nat) : Thread Stand Call → Nat := Thread.effort (Stand.effort n) (Call.effort n)

/-- Those who sleep have to be woken before they act again. -/
theorem Act.effort_le {n : Nat} {s : Depot} (acts : Act place s c note shared d)
    (few : s.asleep.length ≤ n) :
    effort n d + s.asleep.length + 1 ≤ effort n c + shared.asleep.length := by
  unfold effort Thread.effort
  cases acts with
  | takes looks | ends looks | parks looks =>
    cases looks <;>
      simp only [Stand.effort, Call.effort, List.map_cons, List.sum_cons, List.length_cons] <;>
      omega
  | notifies member =>
    have some := List.length_pos_of_mem member
    rw [List.length_erase_of_mem member]
    simp only [Stand.effort]
    omega
  | _ =>
    simp only [Stand.effort, Call.effort, List.map_cons, List.sum_cons, List.length_nil]
    omega

/-- Only stray wakeups can keep the threads going. -/
theorem Trail.steps_le (trail : protocol.Trail (start q scripts) steps strays s) :
    steps ≤ (start q scripts).total (effort scripts.length) + strays := by
  have spent := Protocol.Trail.effort_le (effort scripts.length)
    (fun depot => depot.asleep.length) 1 (fun before standing acts => ?_) (fun stray => ?_) trail
  · -- those who sleep have still to look once more
    have left := (Trail.sleepers trail).mul_length_le_total (f := effort scripts.length) (w := 1)
      fun c parked => by
        rw [effort, Thread.effort, parked]
        exact Nat.le_add_right 1 _
    omega
  · have few := (Trail.sleepers before).length_le
    rw [before.length_eq, start, Crowd.start, List.length_map] at few
    exact Act.effort_le acts few
  · cases stray with
    | wakes member =>
      rw [List.length_erase_of_mem member]
      omega

end

/-! ## A producer and consumers that pop once each -/

/-- A thread that pops once: before, in and after its pop. -/
inductive Consumes : Thread Stand Call → Prop where
  | eager : Consumes ⟨.free, [.pop]⟩
  | waits : Consumes ⟨.parked, []⟩
  | served : Consumes ⟨.free, []⟩

/-- The jobs that a queue accepts when these are pushed. -/
def offered (q : Backlog) (jobs : List JobId) : List JobId := if q.closed then [] else jobs

/-- The producer, before and after it has closed the queue. -/
inductive Produces (q : Backlog) (jobs : List JobId) (closing : Bool) (s : Clients) :
    Thread Stand Call → Prop where
  | pushing {stand : Stand} {left : List JobId} (busy : stand = .free ∨ stand = .notifying)
      (closed : s.shared.backlog.closed = q.closed)
      (offers : accepted s.seen ++ offered q left = offered q jobs) :
      Produces q jobs closing s ⟨stand, producer left closing⟩
  | closing {stand : Stand} (busy : stand = .broadcasting ∨ stand = .free)
      (asked : closing = true) (closed : s.shared.backlog.closed = true)
      (offers : accepted s.seen = offered q jobs) : Produces q jobs closing s ⟨stand, []⟩

structure Serving (q : Backlog) (jobs : List JobId) (closing : Bool) (s : Clients) : Prop where
  producer : ∃ c, s.threads[0]? = some c ∧ Produces q jobs closing s c
  consumers : ∀ i c, s.threads[i + 1]? = some c → Consumes c

section
variable {q : Backlog} {s : Clients} {place n steps strays : Nat} {jobs : List JobId}
  {closing : Bool} {c d : Thread Stand Call} {note : Option Entry} {shared : Depot}

theorem serving_start : Serving q jobs closing (serving q n jobs closing) := by
  refine ⟨⟨_, rfl, .pushing (.inl rfl) rfl rfl⟩, fun i c there => ?_⟩
  simp only [serving, start, Crowd.start, List.map_cons, List.map_replicate] at there
  rw [List.getElem?_cons_succ, List.getElem?_replicate] at there
  split at there
  · exact Option.some.inj there ▸ .eager
  · simp at there

/-- What a consumer does changes nothing for the producer. -/
theorem Consumes.act {s : Depot} (h : Consumes c) (acts : Act place s c note shared d) :
    Consumes d ∧ shared.backlog.closed = s.backlog.closed ∧ accepted note.toList = [] := by
  have last {rest : List Call} (looks : Looks place s c rest) : rest = [] := by
    cases looks <;> cases h <;> rfl
  cases acts with
  | takes looks found =>
    obtain ⟨left, -, rfl⟩ := Backlog.of_take_job found
    obtain rfl := last looks
    exact ⟨.served, rfl, rfl⟩
  | ends looks =>
    obtain rfl := last looks
    exact ⟨.served, rfl, rfl⟩
  | parks looks =>
    obtain rfl := last looks
    exact ⟨.waits, rfl, rfl⟩
  | _ => cases h

theorem Produces.ne_parked (h : Produces q jobs closing s c) : c.stand ≠ .parked := by
  cases h with
  | pushing busy | closing busy => obtain rfl | rfl := busy <;> simp

theorem Produces.act (h : Produces q jobs closing s c)
    (acts : Act place s.shared c note shared d) :
    Produces q jobs closing (s.after place note shared d) d := by
  cases h with
  | @pushing stand left busy closed offers =>
    obtain rfl | rfl := busy
    · cases left with
      | nil =>
        cases closing with
        | false =>
          cases acts with
          | takes looks | ends looks | parks looks => cases looks
        | true =>
          cases acts with
          | takes looks | ends looks | parks looks => cases looks
          | closes =>
            refine .closing (.inl rfl) rfl rfl ?_
            simpa [accepted_append, offered] using offers
      | cons job left =>
        cases acts with
        | takes looks | ends looks | parks looks => cases looks
        | pushes opened =>
          refine .pushing (.inr rfl) ?_ ?_
          · simpa [Backlog.push_of_open opened] using closed
          · simpa [accepted_append, offered, ← closed, opened] using offers
        | isRefused refuses =>
          refine .pushing (.inl rfl) ?_ ?_
          · simpa [Backlog.push_of_closed refuses] using closed
          · simpa [accepted_append, offered, ← closed, refuses] using offers
    · cases acts with
      | takes looks | ends looks | parks looks => cases looks
      | notifies => exact .pushing (.inl rfl) closed (by simpa using offers)
      | notifiesNobody => exact .pushing (.inl rfl) closed (by simpa using offers)
  | closing busy asked closed offers =>
    obtain rfl | rfl := busy
    · cases acts with
      | takes looks | ends looks | parks looks => cases looks
      | broadcasts => exact .closing (.inr rfl) asked closed (by simpa using offers)
    · cases acts with
      | takes looks | ends looks | parks looks => cases looks

theorem Produces.of_same {t : Clients} (h : Produces q jobs closing s c)
    (closed : t.shared.backlog.closed = s.shared.backlog.closed)
    (same : accepted t.seen = accepted s.seen) : Produces q jobs closing t c := by
  cases h with
  | pushing busy before offers =>
    exact .pushing busy (closed.trans before) (same ▸ offers)
  | closing busy asked before offers =>
    exact .closing busy asked (closed.trans before) (same.trans offers)

theorem Serving.act (h : Serving q jobs closing s) (standing : s.threads[place]? = some c)
    (acts : Act place s.shared c note shared d) :
    Serving q jobs closing (s.after place note shared d) := by
  obtain ⟨producer, first, produces⟩ := h.producer
  cases place with
  | zero =>
    obtain rfl := Option.some.inj (first.symm.trans standing)
    refine ⟨⟨d, Crowd.arrived standing, produces.act acts⟩, fun i x there => ?_⟩
    obtain ⟨here, -⟩ | ⟨-, before⟩ := Crowd.of_after there
    · simp at here
    · exact h.consumers i x before
  | succ place =>
    obtain ⟨consumes, closed, none⟩ := (h.consumers place c standing).act acts
    refine ⟨⟨producer, Crowd.stayed first (by simp), produces.of_same closed ?_⟩,
      fun i x there => ?_⟩
    · rw [Crowd.seen_after, accepted_append, none, List.append_nil]
    · obtain ⟨-, rfl⟩ | ⟨-, before⟩ := Crowd.of_after there
      · exact consumes
      · exact h.consumers i x before

theorem Trail.served (trail : protocol.Trail (serving q n jobs closing) steps strays s) :
    Serving q jobs closing s := by
  refine trail.invariant serving_start Serving.act ?_
  intro t shared h stray
  obtain ⟨producer, first, produces⟩ := h.producer
  cases stray with
  | wakes => exact ⟨⟨producer, first, produces.of_same rfl rfl⟩, h.consumers⟩

/-! ## Every pop returns -/

/-- Only whoever is asleep, or has made all its calls, has nothing to do. -/
theorem acts_or_done_of_awake {s : Depot} (awake : place ∉ s.asleep) :
    protocol.Acts place s c ∨ c = ⟨.free, []⟩ := by
  have look {rest : List Call} (looks : Looks place s c rest) : protocol.Acts place s c := by
    cases found : s.backlog.take with
    | job job left => exact ⟨_, _, _, .takes looks found⟩
    | ended => exact ⟨_, _, _, .ends looks found⟩
    | blocked => exact ⟨_, _, _, .parks looks found⟩
  obtain ⟨stand, calls⟩ := c
  cases stand with
  | parked => exact .inl (look (.again awake))
  | broadcasting => exact .inl ⟨_, _, _, .broadcasts⟩
  | notifying =>
    cases asleep : s.asleep with
    | nil => exact .inl ⟨_, _, _, .notifiesNobody asleep⟩
    | cons other others =>
      exact .inl ⟨_, _, _, .notifies (asleep ▸ List.mem_cons_self : other ∈ s.asleep)⟩
  | free =>
    match calls with
    | [] => exact .inr rfl
    | .pop :: _ => exact .inl (look .first)
    | .close :: _ => exact .inl ⟨_, _, _, .closes⟩
    | .push job :: _ =>
      cases closed : s.backlog.closed with
      | false => exact .inl ⟨_, _, _, .pushes closed⟩
      | true => exact .inl ⟨_, _, _, .isRefused closed⟩

theorem asleep_or_done_of_stuck (stuck : ∀ t, ¬ protocol.Step s t)
    (standing : s.threads[place]? = some c) : place ∈ s.shared.asleep ∨ c = ⟨.free, []⟩ := by
  by_cases asleep : place ∈ s.shared.asleep
  · exact .inl asleep
  · exact .inr ((acts_or_done_of_awake asleep).resolve_left
      (Protocol.not_acts_of_stuck stuck standing))

/-- The producer leaves the queue with all jobs that it accepts, and closed if that was asked
for. -/
theorem Produces.of_done (h : Produces q jobs closing s ⟨.free, []⟩) :
    accepted s.seen = offered q jobs ∧ s.shared.backlog.closed = (q.closed || closing) := by
  generalize same : (⟨.free, []⟩ : Thread Stand Call) = c at h
  cases h with
  | @pushing stand left busy closed offers =>
    simp only [producer, Thread.mk.injEq, List.nil_eq, List.append_eq_nil_iff,
      List.map_eq_nil_iff] at same
    obtain ⟨-, rfl, asked⟩ := same
    have unasked : closing = false := by simpa using asked
    refine ⟨?_, by simp [closed, unasked]⟩
    simpa [offered] using offers
  | closing busy asked closed offers => exact ⟨offers, by simp [closed, asked]⟩

theorem total_pops_serving (q : Backlog) (n : Nat) (jobs : List JobId) (closing : Bool) :
    (serving q n jobs closing).total pops = n := by
  have none : (jobs.map Call.push).count .pop = 0 := by
    simp [List.count_eq_zero]
  cases closing <;>
    simp [serving, start, Crowd.start, Crowd.total, pops, Stand.under, producer, none,
      List.count_append]

section
variable (trail : protocol.Trail (serving q n jobs closing) steps strays s)
include trail

theorem Trail.pops_left : s.total pops + (results s.seen).length = n := by
  have left := Trail.total_pops trail
  rwa [← serving, total_pops_serving] at left

/-- When nobody can act any more, every call has returned. -/
theorem Trail.done_of_stuck
    (enough : q.closed = true ∨ closing = true ∨ n ≤ q.waiting.length + jobs.length)
    (stuck : ∀ t, ¬ protocol.Step s t) : s.Done .free := by
  intro c member
  obtain ⟨i, standing⟩ := List.getElem?_of_mem member
  refine (asleep_or_done_of_stuck stuck standing).resolve_left fun asleep => ?_
  have sleepers := Trail.sleepers trail
  have silent (j : Nat) (x : Thread Stand Call) (there : s.threads[j]? = some x) :
      x.stand = .free ∨ j ∈ s.shared.asleep :=
    (asleep_or_done_of_stuck stuck there).elim .inr fun done => .inl (done ▸ rfl)
  have idle : s.shared.backlog.waiting = [] ∧ s.shared.backlog.closed ≠ true := by
    have fed := fun ready => (Trail.alert trail).not_stranded sleepers
      ⟨List.ne_nil_of_mem asleep, silent, ready⟩
    exact ⟨by_contra fun waits => fed (.inl waits), fun closed => fed (.inr closed)⟩
  obtain ⟨producer, first, produces⟩ := (Trail.served trail).producer
  obtain sleeps | rfl := asleep_or_done_of_stuck stuck first
  · obtain ⟨x, there, parked⟩ := sleepers.parked sleeps
    obtain rfl := Option.some.inj (first.symm.trans there)
    exact produces.ne_parked parked
  · obtain ⟨accepts, closed⟩ := produces.of_done
    rw [closed, ne_eq, Bool.or_eq_true, not_or] at idle
    obtain ⟨empty, notClosed, notAsked⟩ := idle
    -- all jobs were taken, by as many pops, but one pop is left
    have conserved := congrArg List.length (Turns.conserved (Trail.turns trail))
    have fewer : (taken s.seen).length ≤ (results s.seen).length := List.length_filterMap_le _ _
    have left := Trail.pops_left trail
    have some : s.total pops ≠ 0 := fun zero => by
      obtain ⟨x, there, parked⟩ := sleepers.parked asleep
      obtain rfl := Option.some.inj (standing.symm.trans there)
      have own := List.sum_eq_zero_iff_forall_eq_nat.mp zero _ (List.mem_map_of_mem member)
      simp [pops, parked, Stand.under] at own
    have room := (enough.resolve_left notClosed).resolve_left notAsked
    simp [empty, accepts, offered, notClosed] at conserved
    omega

/-- Once every call has returned, the queue has handed out its first jobs. -/
theorem Trail.results_of_done (done : s.Done .free) :
    results s.seen = ((q.waiting ++ offered q jobs).take n).map some ++
      List.replicate (n - (q.waiting ++ offered q jobs).length) none ∧
    s.shared.backlog = ⟨(q.waiting ++ offered q jobs).drop n, q.closed || closing,
      q.accepted + (offered q jobs).length⟩ := by
  obtain ⟨producer, first, produces⟩ := (Trail.served trail).producer
  obtain rfl := done producer (List.mem_of_getElem? first)
  obtain ⟨accepts, closed⟩ := produces.of_done
  have turns := Trail.turns trail
  obtain ⟨k, shape, dry⟩ := Turns.results_eq turns
  have none : s.total pops = 0 := by
    refine List.sum_eq_zero_iff_forall_eq_nat.mpr fun m inside => ?_
    obtain ⟨c, member, rfl⟩ := List.mem_map.mp inside
    rw [done c member]
    rfl
  have left := Trail.pops_left trail
  have all : taken s.seen ++ s.shared.backlog.waiting = q.waiting ++ offered q jobs :=
    accepts ▸ Turns.conserved turns
  have size : (taken s.seen).length + k = n := by
    have length := congrArg List.length shape
    simp at length
    omega
  have backlog : s.shared.backlog = ⟨s.shared.backlog.waiting, q.closed || closing,
      q.accepted + (offered q jobs).length⟩ := by
    rw [← closed, ← accepts, ← Turns.counted turns]
  rw [backlog, shape, ← all]
  cases k with
  | zero =>
    have full : (taken s.seen).length = n := size
    simp [← full]
  | succ k =>
    obtain ⟨empty, -⟩ := dry k.succ_pos
    have fits : (taken s.seen).length ≤ n := by omega
    have rest : n - (taken s.seen).length = k + 1 := by omega
    simp [empty, List.take_of_length_le fits, List.drop_of_length_le fits, rest]

end

theorem pushAll_of_closed (closed : q.closed = true) (jobs : List JobId) :
    q.pushAll jobs = q := by
  induction jobs with
  | nil => rfl
  | cons job rest ih => rwa [Backlog.pushAll, List.foldl_cons, Backlog.push_of_closed closed]

/-- What is served, if the pops wait until everything has been pushed. -/
theorem serve_eq (enough : q.closed = true ∨ closing = true ∨ n ≤ q.waiting.length + jobs.length) :
    q.serve n jobs closing = some
      (((q.waiting ++ offered q jobs).take n).map some ++
        List.replicate (n - (q.waiting ++ offered q jobs).length) none,
      ⟨(q.waiting ++ offered q jobs).drop n, q.closed || closing,
        q.accepted + (offered q jobs).length⟩) := by
  have pushed : q.pushAll jobs = ⟨q.waiting ++ offered q jobs, q.closed,
      q.accepted + (offered q jobs).length⟩ := by
    cases closed : q.closed with
    | false => simp [Backlog.pushAll_of_open closed, offered, closed]
    | true => simp [pushAll_of_closed closed, offered, ← closed]
  have served : q.closed = true ∨ closing = true ∨
      n ≤ (q.waiting ++ offered q jobs).length := by
    cases closed : q.closed with
    | false => simpa [offered, closed] using enough
    | true => exact .inl rfl
  unfold Backlog.serve
  rw [pushed]
  generalize q.waiting ++ offered q jobs = whole at served
  have missing : n - min n whole.length = n - whole.length := by omega
  cases closing with
  | true => simp [Backlog.close, missing]
  | false =>
    have ready : q.closed = true ∨ n ≤ whole.length := by simpa using served
    simp [ready, missing]

/-- How a producer and `n` consumers fare that pop once each. -/
structure Serves (q : Backlog) (n : Nat) (jobs : List JobId) (closing : Bool) : Prop where
  /-- Until every call has returned, some thread can act. -/
  unstuck : ∀ steps strays s, protocol.Trail (serving q n jobs closing) steps strays s →
    ¬ s.Done .free → ∃ t, protocol.Step s t
  /-- That takes a bounded number of actions, and one more for each stray wakeup. -/
  bounded : ∀ steps strays s, protocol.Trail (serving q n jobs closing) steps strays s →
    steps ≤ 3 * jobs.length + (if closing then n + 3 else 0) + n + strays
  /-- The pops return the first jobs of the queue, and then nothing. -/
  returned : ∀ steps strays s, protocol.Trail (serving q n jobs closing) steps strays s →
    s.Done .free →
      results s.seen = ((q.waiting ++ offered q jobs).take n).map some ++
        List.replicate (n - (q.waiting ++ offered q jobs).length) none
  /-- So the threads can take turns in any order. -/
  serve : ∀ steps strays s, protocol.Trail (serving q n jobs closing) steps strays s →
    s.Done .free → q.serve n jobs closing = some (results s.seen, s.shared.backlog)

theorem serves (enough : q.closed = true ∨ closing = true ∨ n ≤ q.waiting.length + jobs.length) :
    Serves q n jobs closing where
  unstuck steps strays s trail running := by
    by_contra stuck
    exact running (Trail.done_of_stuck trail enough fun t step => stuck ⟨t, step⟩)
  bounded steps strays s trail := by
    have spent := Trail.steps_le trail
    rw [List.length_cons, List.length_replicate] at spent
    have budget : (serving q n jobs closing).total (effort (n + 1)) =
        3 * jobs.length + (if closing then n + 3 else 0) + n := by
      cases closing <;>
        simp [serving, start, Crowd.start, Crowd.total, effort, Thread.effort, Stand.effort,
          Call.effort, producer, Function.comp_def, Nat.mul_comm, List.map_const', Nat.add_assoc]
    rw [serving] at budget
    omega
  returned steps strays s trail done := (Trail.results_of_done trail done).1
  serve steps strays s trail done := by
    obtain ⟨returned, backlog⟩ := Trail.results_of_done trail done
    rw [serve_eq enough, returned, backlog]

end

/-- No thread ever sleeps while there is something for it to find and no wakeup is under way. So when
`n` threads pop once each, while another one pushes jobs and then may close the queue, all pops
return if there is enough for them to find, and they return the same in every interleaving. -/
theorem pops_return_in_any_order (q : Backlog) :
    (∀ scripts steps strays s, protocol.Trail (start q scripts) steps strays s → ¬ Stranded s) ∧
      ∀ n jobs closing,
        q.closed = true ∨ closing = true ∨ n ≤ q.waiting.length + jobs.length →
        Serves q n jobs closing :=
  ⟨fun _ _ _ _ trail => (Trail.alert trail).not_stranded (Trail.sleepers trail),
    fun _ _ _ enough => serves enough⟩

/-- A consumer falls asleep before anything is pushed, and gets what is pushed later. -/
theorem sleeper_gets_later_push :
    ∃ s, protocol.Trail (serving {} 1 [⟨"x"⟩] false) 4 0 s ∧ s.Done .free ∧
      results s.seen = [some ⟨"x"⟩] := by
  have begins : protocol.Trail (serving {} 1 [⟨"x"⟩] false) 0 0 _ := .start
  have sleeps := begins.act 1 rfl (.parks .first rfl)
  have notified := (sleeps.act 0 rfl (.pushes rfl)).act 0 rfl (@Act.notifies _ _ _ 1 (by decide))
  have takes := notified.act 1 rfl (.takes (.again (by decide)) rfl)
  have serves := (pops_return_in_any_order {}).2 1 [⟨"x"⟩] false (.inr (.inr (by decide)))
  exact ⟨_, takes, by decide, serves.returned _ _ _ takes (by decide)⟩

end Precedence.Depot

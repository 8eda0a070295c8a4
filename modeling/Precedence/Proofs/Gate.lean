import Precedence.Gate
import Precedence.Proofs.Crowd
/-!
# Nobody sleeps through a wakeup

A thread that waits looks at the stop flag and falls asleep in two actions, and the flag may be
raised in between. It keeps the lock meanwhile, so whoever takes the lock to wake all comes later,
and finds it asleep (`Watched`). The count only changes under the lock, and whoever counts the last
job keeps the lock until all are awake; so one notification is enough, also when more jobs are
counted later.

A thread that sleeps on at a settled gate (`Missed`) is therefore never found. If just one thread
marks, and all its marks come before it stops the run, then those that wait are told the same number
in any order of actions (`no_wakeup_is_missed`).
-/

namespace Precedence

namespace Gate

/-- What the marks were told. -/
def marks (entries : List (Nat × Entry)) : List Nat :=
  entries.filterMap fun entry =>
    match entry.2 with
    | .marked finished => some finished
    | _ => none

def Raised (entries : List (Nat × Entry)) : Prop := ∃ place, (place, .raised) ∈ entries

/-- All were woken after the flag was raised. -/
def Answered (entries : List (Nat × Entry)) : Prop :=
  ∃ before place after, entries = before ++ (place, .woke) :: after ∧ Raised before

/-- A thread sleeps, and no wakeup has come to it, although all jobs are finished and whoever
counted the last one is not about to wake all, or although all were woken because of the flag. -/
structure Missed (s : Users) : Prop where
  sleeps : ∃ (place : Nat) (c : Thread Stand Call), s.threads[place]? = some c ∧
    c.stand = .parked ∧ place ∈ s.shared.asleep
  settled : s.shared.tally.complete = true ∧ (∀ c ∈ s.threads, c.stand ≠ .announcing) ∨
    Answered s.entries

/-- The call that comes to this. -/
def Entry.call : Entry → Call
  | .marked _ => .mark
  | .raised => .raise
  | .woke => .wake
  | .passed _ => .wait

/-- The call that a thread is in the middle of, as long as it is not decided. -/
def Stand.under : Stand → List Call
  | .counting => [.mark]
  | .ringing => [.wake]
  | .looking | .dozing | .parked => [.wait]
  | .free | .announcing | .leaving => []

theorem Entry.eq_raised {entry : Entry} (raises : entry.call = .raise) : entry = .raised := by
  cases entry with
  | raised => rfl
  | _ => simp [Entry.call] at raises

theorem Entry.eq_woke {entry : Entry} (wakes : entry.call = .wake) : entry = .woke := by
  cases entry with
  | woke => rfl
  | _ => simp [Entry.call] at wakes

/-- What a call of `n` threads can cost: whoever wakes all makes each of them look once more. -/
def Call.effort (n : Nat) : Call → Nat
  | .mark => 3 * n + 4
  | .raise => 1
  | .wake => 3 * n + 3
  | .wait => 3

/-- What is left of it there. -/
def Stand.effort (n : Nat) : Stand → Nat
  | .free => 0
  | .counting => 3 * n + 3
  | .announcing | .ringing => 3 * n + 2
  | .looking => 2
  | .dozing | .leaving => 1
  | .parked => 3

theorem opening (n : Nat) {call : Call} {stand : Stand} (opens : call.entrance = some stand) :
    Opening Stand.holds Stand.under (Stand.effort n) (Call.effort n) call stand := by
  cases call with
  | mark | wake | wait => exact Option.some.inj opens ▸ ⟨rfl, rfl, rfl⟩
  | raise => simp [Call.entrance] at opens

/-! ## Histories of a gate -/

/-- A call on a gate that nobody else uses meanwhile: the tally and the flag before and after. -/
inductive Turn : Tally × Bool → Nat × Entry → Tally × Bool → Prop where
  | marks (place : Nat) (tally : Tally) (stopped : Bool) :
      Turn (tally, stopped) (place, .marked tally.mark.finished) (tally.mark, stopped)
  | raises (place : Nat) (tally : Tally) (stopped : Bool) :
      Turn (tally, stopped) (place, .raised) (tally, true)
  | wakes (place : Nat) (tally : Tally) (stopped : Bool) :
      Turn (tally, stopped) (place, .woke) (tally, stopped)
  | passes (place : Nat) {tally : Tally} {stopped : Bool}
      (settled : tally.settled stopped = true) :
      Turn (tally, stopped) (place, .passed tally.finished) (tally, stopped)

abbrev Turns : Tally × Bool → List (Nat × Entry) → Tally × Bool → Prop := History Turn

section
variable {a b : Tally × Bool} {entries before after : List (Nat × Entry)} {place finished : Nat}

@[simp] theorem marks_nil : marks [] = [] := rfl
@[simp] theorem marks_marked :
    marks ((place, .marked finished) :: entries) = finished :: marks entries := rfl
@[simp] theorem marks_raised : marks ((place, .raised) :: entries) = marks entries := rfl
@[simp] theorem marks_woke : marks ((place, .woke) :: entries) = marks entries := rfl
@[simp] theorem marks_passed :
    marks ((place, .passed finished) :: entries) = marks entries := rfl

/-- As many as there are calls that mark. -/
theorem length_marks : (marks entries).length = (entries.map (·.2.call)).count .mark := by
  induction entries with
  | nil => rfl
  | cons entry rest ih =>
    obtain ⟨place, entry⟩ := entry
    cases entry <;> simp [Entry.call, ih]

theorem Answered.raised (answered : Answered entries) : Raised entries := by
  obtain ⟨before, place, after, rfl, i, member⟩ := answered
  exact ⟨i, List.mem_append_left _ member⟩

/-- Only a call that wakes all answers a flag that is up. -/
theorem Answered.of_concat {noted : Nat × Entry} (other : noted.2 ≠ .woke)
    (answered : Answered (entries ++ [noted])) : Answered entries := by
  obtain ⟨before, place, after, split, raised⟩ := answered
  obtain rfl | ⟨rest, last, rfl⟩ := List.eq_nil_or_concat after
  · have last := List.append_inj_right' split rfl
    rw [List.singleton_inj.mp last] at other
    exact absurd rfl other
  · have same : entries ++ [noted] = (before ++ (place, .woke) :: rest) ++ [last] := by
      rw [split]
      simp
    exact ⟨before, place, rest, List.append_inj_left' same rfl, raised⟩

namespace Turns

variable (history : Turns a entries b)
include history

/-- The tally counts the marks. -/
theorem tally_eq : b.1 = { a.1 with finished := a.1.finished + (marks entries).length } := by
  induction history with
  | nil => rfl
  | cons first _ ih =>
    rw [ih]
    cases first with
    | marks place tally stopped =>
      simp only [Tally.mark, marks_marked, List.length_cons, Tally.mk.injEq, true_and]
      omega
    | _ => rfl

/-- The marks are told numbers that count up. -/
theorem marks_eq :
    marks entries = List.range' (a.1.finished + 1) (marks entries).length := by
  induction history with
  | nil => rfl
  | cons first _ ih =>
    cases first with
    | marks place tally stopped =>
      rw [marks_marked, List.length_cons, List.range'_succ]
      exact congrArg _ ih
    | _ => exact ih

theorem stopped_iff : b.2 = true ↔ a.2 = true ∨ Raised entries := by
  induction history with
  | nil => simp [Raised]
  | cons first _ ih =>
    rw [ih]
    cases first with
    | raises => simp [Raised]
    | _ => simp [Raised]

end Turns

/-- Who is let through is told how many jobs are finished, and there is a reason for it. -/
theorem Turns.passed {tally : Tally}
    (history : Turns (tally, false) (before ++ (place, .passed finished) :: after) b) :
    finished = tally.finished + (marks before).length ∧
      (tally.total ≤ finished ∨ Raised before) := by
  obtain ⟨c, d, earlier, turn, -⟩ := history.at_turn
  have counted := Turns.tally_eq earlier
  have flag := Turns.stopped_iff earlier
  cases turn with
  | @passes _ reached stopped settled =>
    obtain rfl : reached = _ := counted
    refine ⟨rfl, ?_⟩
    simp only [Tally.settled, Tally.complete, Bool.or_eq_true, decide_eq_true_eq] at settled
    obtain full | up := settled
    · exact .inl full
    · have raised := flag.mp up
      simp only [Bool.false_eq_true, false_or] at raised
      exact .inr raised

end

/-! ## Who sleeps, and who wakes them -/

section
variable {s t : Users} {tally : Tally} {scripts : List (List Call)} {place steps strays : Nat}
  {c d : Thread Stand Call} {note : Option Entry} {shared : Gate}

theorem guarded : protocol.Guarded Stand.holds locked where
  act acts := by
    cases acts with
    | enters opens free => exact .takes free (opening 0 opens).locked rfl
    | rises awake free => exact .takes free rfl rfl
    | raises => exact .leavesAlone rfl rfl
    | counts =>
      refine .leavesAlone ?_ rfl
      simp only
      split <;> rfl
    | sleeps | leaves => exact .returns rfl rfl rfl
    | _ => exact .leavesAlone rfl rfl
  stray stray := by
    cases stray with
    | wakes => rfl

theorem orderly : protocol.Orderly Entry.call Stand.under := by
  intro place shared c note shared' d acts
  cases acts with
  | enters opens free =>
    rw [(opening 0 opens).begun]
    rfl
  | counts =>
    simp only
    split <;> rfl
  | _ => rfl

theorem Trail.exclusive (trail : protocol.Trail (start tally scripts) steps strays s) :
    Protocol.Exclusive Stand.holds locked s :=
  Protocol.Trail.exclusive guarded (Protocol.exclusive_start rfl rfl) trail

/-- An action leaves the tally and the flag alone, or it takes a turn. -/
theorem Act.turn {s : Gate} (acts : Act place s c note shared d) :
    note = none ∧ shared.tally = s.tally ∧ shared.stopped = s.stopped ∨
      ∃ entry, note = some entry ∧
        Turn (s.tally, s.stopped) (place, entry) (shared.tally, shared.stopped) := by
  cases acts with
  | raises => exact .inr ⟨_, rfl, .raises place _ _⟩
  | counts => exact .inr ⟨_, rfl, .marks place _ _⟩
  | rings => exact .inr ⟨_, rfl, .wakes place _ _⟩
  | passes settled => exact .inr ⟨_, rfl, .passes place settled⟩
  | _ => exact .inl ⟨rfl, rfl, rfl⟩

theorem Trail.turns (trail : protocol.Trail (start tally scripts) steps strays s) :
    Turns (tally, false) s.entries (s.shared.tally, s.shared.stopped) := by
  refine trail.invariant
    (I := fun s => Turns (tally, false) s.entries (s.shared.tally, s.shared.stopped)) .nil ?_ ?_
  · intro t place c d note shared ih _ acts
    obtain ⟨rfl, counted, flag⟩ | ⟨entry, rfl, turn⟩ := Act.turn acts
    · rw [Crowd.after_shared, counted, flag]
      simpa using ih
    · exact ih.concat turn
  · intro t shared ih stray
    cases stray with
    | wakes => exact ih

theorem restful : protocol.Restful asleep .parked where
  awake acts := by
    cases acts with
    | rises awake => exact fun _ => awake
    | _ => simp
  act acts := by
    cases acts with
    | announces | rings => exact .inl (List.nil_sublist _)
    | sleeps => exact .inr ⟨rfl, rfl⟩
    | _ => exact .inl (List.Sublist.refl _)
  stray stray := by
    cases stray with
    | wakes => exact List.erase_sublist

theorem Trail.sleepers (trail : protocol.Trail (start tally scripts) steps strays s) :
    Protocol.Sleepers asleep .parked s :=
  Protocol.Trail.sleepers restful (.start rfl) trail

/-- Those who sleep, sleep at a gate that is not settled, or somebody is about to wake them. -/
structure Watched (s : Users) : Prop where
  /-- Whoever is about to fall asleep has a reason. -/
  dozing : ∀ {i : Nat} {c : Thread Stand Call}, s.threads[i]? = some c → c.stand = .dozing →
    s.shared.tally.complete = false ∧ ¬ Answered s.entries
  announced : s.shared.asleep ≠ [] → s.shared.tally.complete = true →
    ∃ (i : Nat) (c : Thread Stand Call), s.threads[i]? = some c ∧ c.stand = .announcing
  answered : Answered s.entries → s.shared.asleep = []

theorem watched_start : Watched (start tally scripts) where
  dozing there dozes := by
    obtain ⟨script, -, rfl⟩ := List.mem_map.mp (List.mem_of_getElem? there)
    simp at dozes
  announced somebody := absurd rfl somebody
  answered _ := rfl

theorem answered_after (silent : note ≠ some .woke)
    (answered : Answered (s.after place note shared d).entries) : Answered s.entries := by
  cases note with
  | none => simpa using answered
  | some entry =>
    apply Answered.of_concat ?_ answered
    intro woke
    exact silent (congrArg some woke)

namespace Watched

/-- An action that leaves alone those who sleep, and the tally. -/
theorem quiet (h : Watched s) (standing : s.threads[place]? = some c)
    (before : c.stand ≠ .announcing)
    (now : d.stand = .dozing → s.shared.tally.complete = false ∧ ¬ Answered s.entries)
    (silent : note ≠ some .woke) (asleep : shared.asleep = s.shared.asleep)
    (tally : shared.tally = s.shared.tally) : Watched (s.after place note shared d) where
  dozing there dozes := by
    have reason : s.shared.tally.complete = false ∧ ¬ Answered s.entries := by
      obtain ⟨-, rfl⟩ | ⟨-, earlier⟩ := Crowd.of_after there
      · exact now dozes
      · exact h.dozing earlier dozes
    obtain ⟨lacking, unanswered⟩ := reason
    rw [Crowd.after_shared, tally]
    exact ⟨lacking, fun answered => unanswered (answered_after silent answered)⟩
  announced somebody full := by
    obtain ⟨i, x, there, announces⟩ := h.announced (asleep ▸ somebody) (tally ▸ full)
    have other : i ≠ place := by
      apply Crowd.ne_of_stand_ne there standing
      rw [announces]
      exact before.symm
    exact ⟨i, x, Crowd.stayed there other, announces⟩
  answered answered := asleep.trans (h.answered (answered_after silent answered))

/-- Nobody else is about to fall asleep while a thread holds the lock. -/
theorem ne_dozing (exclusive : Protocol.Exclusive Stand.holds locked s)
    (standing : s.threads[place]? = some c) (holds : c.stand.holds = true) (now : d.stand ≠ .dozing)
    {i : Nat} {x : Thread Stand Call}
    (there : (s.after place note shared d).threads[i]? = some x) : x.stand ≠ .dozing := by
  intro dozes
  obtain ⟨-, rfl⟩ | ⟨other, earlier⟩ := Crowd.of_after there
  · exact now dozes
  · have apart := exclusive.holds_eq_false standing holds other earlier
    rw [dozes] at apart
    simp [Stand.holds] at apart

/-- A thread that holds the lock has woken all. -/
theorem woken (exclusive : Protocol.Exclusive Stand.holds locked s)
    (standing : s.threads[place]? = some c) (holds : c.stand.holds = true) (now : d.stand ≠ .dozing)
    (asleep : shared.asleep = []) : Watched (s.after place note shared d) where
  dozing there dozes := absurd dozes (ne_dozing exclusive standing holds now there)
  announced somebody := absurd asleep somebody
  answered _ := asleep

/-- Whoever counts the last job wakes all next. -/
theorem counts (h : Watched s) (exclusive : Protocol.Exclusive Stand.holds locked s)
    {rest : List Call} (standing : s.threads[place]? = some ⟨.counting, rest⟩)
    (silent : note ≠ some .woke) :
    Watched (s.after place note { s.shared with tally := s.shared.tally.mark }
      ⟨if s.shared.tally.mark.finished = s.shared.tally.total then .announcing else .leaving,
        rest⟩) where
  dozing there dozes := by
    refine absurd dozes (ne_dozing exclusive standing rfl ?_ there)
    simp only
    split <;> simp
  announced somebody full := by
    -- nobody else announces while this thread counts, so the last job was missing until now
    have lacking : s.shared.tally.complete = false := by
      cases early : s.shared.tally.complete with
      | false => rfl
      | true =>
        obtain ⟨i, x, there, announces⟩ := h.announced somebody early
        have other : i ≠ place := Crowd.ne_of_stand_ne there standing (by simp [announces])
        have apart := exclusive.holds_eq_false standing rfl other there
        rw [announces] at apart
        simp [Stand.holds] at apart
    have last : s.shared.tally.mark.finished = s.shared.tally.total := by
      have before := of_decide_eq_false lacking
      have now : s.shared.tally.total ≤ s.shared.tally.finished + 1 := of_decide_eq_true full
      change s.shared.tally.finished + 1 = _
      omega
    exact ⟨place, _, Crowd.arrived standing, if_pos last⟩
  answered answered := h.answered (answered_after silent answered)

/-- Nobody falls asleep once the gate is settled. -/
theorem sleeps (h : Watched s) (exclusive : Protocol.Exclusive Stand.holds locked s)
    {rest : List Call} (standing : s.threads[place]? = some ⟨.dozing, rest⟩) :
    Watched (s.after place none
      { s.shared with locked := false, asleep := place :: s.shared.asleep } ⟨.parked, rest⟩) := by
  obtain ⟨lacking, unanswered⟩ := h.dozing standing rfl
  constructor
  case dozing =>
    intro i x there dozes
    exact absurd dozes (ne_dozing exclusive standing rfl (by simp) there)
  case announced =>
    intro _ full
    rw [Crowd.after_shared, lacking] at full
    simp at full
  case answered =>
    intro answered
    exact absurd (answered_after (by simp) answered) unanswered

theorem act (h : Watched s) (exclusive : Protocol.Exclusive Stand.holds locked s)
    (flag : Raised s.entries → s.shared.stopped = true) (standing : s.threads[place]? = some c)
    (acts : Act place s.shared c note shared d) : Watched (s.after place note shared d) := by
  cases acts with
  | raises =>
    exact h.quiet standing (by simp) (by simp) (by simp) rfl rfl
  | @enters call stand rest opens free =>
    have now : stand ≠ .dozing := by
      cases call <;> simp [Call.entrance] at opens <;> simp [← opens]
    exact h.quiet standing (by simp) (fun dozes => absurd dozes now) (by simp) rfl rfl
  | counts => exact h.counts exclusive standing (by simp)
  | announces => exact woken exclusive standing rfl (by simp) rfl
  | rings => exact woken exclusive standing rfl (by simp) rfl
  | passes settled =>
    exact h.quiet standing (by simp) (by simp) (by simp) rfl rfl
  | lingers unsettled =>
    -- the flag is down, so nobody has been woken because of it
    obtain ⟨lacking, down⟩ : s.shared.tally.complete = false ∧ s.shared.stopped = false := by
      simpa [Tally.settled] using unsettled
    have unanswered : ¬ Answered s.entries := by
      intro answered
      have up := flag answered.raised
      rw [down] at up
      simp at up
    exact h.quiet standing (by simp) (fun _ => ⟨lacking, unanswered⟩) (by simp) rfl rfl
  | sleeps => exact h.sleeps exclusive standing
  | rises awake free => exact h.quiet standing (by simp) (by simp) (by simp) rfl rfl
  | leaves =>
    exact h.quiet standing (by simp) (by simp) (by simp) rfl rfl

theorem stray (h : Watched s) (stray : Stray s.shared shared) : Watched { s with shared } := by
  cases stray with
  | @wakes place asleep =>
    constructor
    case dozing => exact h.dozing
    case announced =>
      intro _ full
      exact h.announced (List.ne_nil_of_mem asleep) full
    case answered =>
      intro answered
      have nobody := h.answered answered
      rw [nobody] at asleep
      simp at asleep

theorem not_missed (h : Watched s) : ¬ Missed s := by
  rintro ⟨⟨place, c, -, -, asleep⟩, settled⟩
  have somebody := List.ne_nil_of_mem asleep
  obtain ⟨full, quiet⟩ | answered := settled
  · obtain ⟨i, x, there, announces⟩ := h.announced somebody full
    exact quiet x (List.mem_of_getElem? there) announces
  · exact somebody (h.answered answered)

end Watched

theorem Trail.watched (trail : protocol.Trail (start tally scripts) steps strays s) :
    Watched s := by
  induction trail with
  | start => exact watched_start
  | step before step ih =>
    cases step with
    | act standing acts =>
      have flag := Turns.stopped_iff (Trail.turns before)
      exact ih.act (Trail.exclusive before) (fun raised => flag.mpr (.inr raised)) standing acts
  | stray _ stray ih => exact ih.stray stray

theorem acts_of_holds {s : Gate} (holds : c.stand.holds = true) : protocol.Acts place s c := by
  obtain ⟨stand, calls⟩ := c
  cases stand with
  | free | parked => simp [Stand.holds] at holds
  | counting => exact ⟨_, _, _, .counts⟩
  | announcing => exact ⟨_, _, _, .announces⟩
  | ringing => exact ⟨_, _, _, .rings⟩
  | looking =>
    cases settled : s.tally.settled s.stopped with
    | true => exact ⟨_, _, _, .passes settled⟩
    | false => exact ⟨_, _, _, .lingers settled⟩
  | dozing => exact ⟨_, _, _, .sleeps⟩
  | leaving => exact ⟨_, _, _, .leaves⟩

theorem acts_or_rests_of_free {s : Gate} (free : s.locked = false)
    (lacks : c.stand.holds = false) :
    protocol.Acts place s c ∨ c = ⟨.free, []⟩ ∨ c.stand = .parked ∧ place ∈ s.asleep := by
  obtain ⟨stand, calls⟩ := c
  cases stand with
  | free =>
    match calls with
    | [] => exact .inr (.inl rfl)
    | .raise :: _ => exact .inl ⟨_, _, _, .raises⟩
    | .mark :: _ => exact .inl ⟨_, _, _, .enters rfl free⟩
    | .wake :: _ => exact .inl ⟨_, _, _, .enters rfl free⟩
    | .wait :: _ => exact .inl ⟨_, _, _, .enters rfl free⟩
  | parked =>
    by_cases asleep : place ∈ s.asleep
    · exact .inr (.inr ⟨rfl, asleep⟩)
    · exact .inl ⟨_, _, _, .rises asleep free⟩
  | _ => simp [Stand.holds] at lacks

/-- When no thread can act, each has returned or sleeps. -/
theorem returned_or_asleep (trail : protocol.Trail (start tally scripts) steps strays s)
    (stuck : ∀ t, ¬ protocol.Step s t) (standing : s.threads[place]? = some c) :
    c = ⟨.free, []⟩ ∨ c.stand = .parked ∧ place ∈ s.shared.asleep :=
  (Trail.exclusive trail).rests_of_stuck stuck acts_of_holds acts_or_rests_of_free standing

/-! ## How long it takes -/

/-- What a thread among `n` of them has ahead. -/
def effort (n : Nat) : Thread Stand Call → Nat := Thread.effort (Stand.effort n) (Call.effort n)

/-- Those who sleep have to be woken before they act again. -/
theorem Act.effort_le {n : Nat} {s : Gate} (acts : Act place s c note shared d)
    (few : s.asleep.length ≤ n) :
    effort n d + 3 * s.asleep.length + 1 ≤ effort n c + 3 * shared.asleep.length := by
  unfold effort
  cases acts with
  | @enters _ _ calls opens free =>
    have idles : Stand.free.effort n = 0 := rfl
    have less := (opening n opens).effort_add_one idles calls
    dsimp only
    omega
  | counts =>
    have counting : Stand.counting.effort n = 3 * n + 3 := rfl
    by_cases last : s.tally.mark.finished = s.tally.total
    · have announcing : Stand.announcing.effort n = 3 * n + 2 := rfl
      simp only [Thread.effort, if_pos last, counting, announcing]
      omega
    · have leaving : Stand.leaving.effort n = 1 := rfl
      simp only [Thread.effort, if_neg last, counting, leaving]
      omega
  | _ =>
    simp only [Thread.effort, Stand.effort, Call.effort, List.map_cons, List.sum_cons,
      List.length_cons, List.length_nil]
    omega

/-- Only stray wakeups can keep the threads going. -/
theorem Trail.steps_le (trail : protocol.Trail (start tally scripts) steps strays s) :
    steps ≤ (3 * scripts.length + 4) * (scripts.map List.length).sum + 3 * strays := by
  have spent := Protocol.Trail.effort_le (effort scripts.length)
    (fun gate => 3 * gate.asleep.length) 3 (fun before standing acts => ?_) (fun stray => ?_) trail
  · have ahead : Crowd.total (effort scripts.length) (start tally scripts) ≤
        (3 * scripts.length + 4) * (scripts.map List.length).sum := by
      refine Crowd.total_start_le rfl fun call => ?_
      cases call <;> simp only [Call.effort] <;> omega
    -- those who sleep have still to look once more
    have left := (Trail.sleepers trail).mul_length_le_total (f := effort scripts.length) (w := 3)
      fun c parked => by
        rw [effort, Thread.effort, parked]
        exact Nat.le_add_right 3 _
    omega
  · have few := (Trail.sleepers before).length_le
    rw [before.length_eq, start, Crowd.start, List.length_map] at few
    exact Act.effort_le acts few
  · cases stray with
    | wakes asleep =>
      rw [List.length_erase_of_mem asleep]
      omega

/-! ## One thread that marks -/

variable {n m k : Nat} {stop : Bool} {calls : List Call} {entries before after : List (Nat × Entry)}

theorem count_releaser : (releaser m stop).count .mark = m := by
  unfold releaser
  rw [List.count_append, List.count_replicate_self]
  cases stop <;> rfl

theorem count_le (front : calls <+: releaser m stop) : calls.count .mark ≤ m := by
  have less := front.sublist.count_le .mark
  rwa [count_releaser] at less

/-- It marks all jobs before it raises the flag. -/
theorem count_of_raise (front : calls <+: releaser m stop) (raises : .raise ∈ calls) :
    calls.count .mark = m := by
  have first : List.replicate m .mark <+: releaser m stop := List.prefix_append _ _
  obtain early | late := List.prefix_or_prefix_of_prefix front first
  · have marks := List.eq_of_mem_replicate (early.subset raises)
    simp at marks
  · have more := late.sublist.count_le .mark
    rw [List.count_replicate_self] at more
    have less := count_le front
    omega

theorem wait_not_mem_releaser : .wait ∉ releaser m stop := by
  unfold releaser
  cases stop <;> simp

/-- All others only wait. -/
theorem place_eq_zero (trail : protocol.Trail (releasing tally n m stop) steps strays s)
    {entry : Entry} (member : (place, entry) ∈ s.entries) (other : entry.call ≠ .wait) :
    place = 0 := by
  obtain ⟨script, given, mem⟩ := Protocol.Trail.call_mem orderly rfl trail member
  cases place with
  | zero => rfl
  | succ i =>
    rw [List.getElem?_cons_succ, List.getElem?_replicate, Option.ite_none_right_eq_some] at given
    obtain rfl := Option.some.inj given.2
    exact absurd (List.mem_singleton.mp mem) other

/-- So the marks are the marks of one thread. -/
theorem length_marks_eq (alone : ∀ noted ∈ entries, noted.2.call ≠ .wait → noted.1 = 0) :
    (marks entries).length = ((entriesAt 0 entries).map Entry.call).count .mark := by
  rw [length_marks]
  induction entries with
  | nil => rfl
  | cons noted rest ih =>
    have later := ih fun other member => alone other (List.mem_cons_of_mem noted member)
    have first := alone noted List.mem_cons_self
    unfold entriesAt at later ⊢
    by_cases own : noted.1 = 0
    · simp only [List.filter_cons, own, decide_true, if_true, List.map_cons, List.count_cons, later]
    · have waits : noted.2.call = .wait := by
        by_cases waits : noted.2.call = .wait
        · exact waits
        · exact absurd (first waits) own
      simp only [List.filter_cons, own, decide_false, List.map_cons, List.count_cons, later, waits]
      simp

theorem calls_prefix (trail : protocol.Trail (releasing tally n m stop) steps strays s)
    (split : s.entries = before ++ after) :
    (entriesAt 0 before).map Entry.call <+: releaser m stop := by
  have whole : (s.doneBy 0).map Entry.call <+: releaser m stop :=
    Protocol.Trail.calls_prefix orderly rfl trail rfl
  rw [Crowd.doneBy, split, entriesAt_append, List.map_append] at whole
  exact (List.prefix_append _ _).trans whole

theorem marks_of_prefix (trail : protocol.Trail (releasing tally n m stop) steps strays s)
    (split : s.entries = before ++ after) :
    (marks before).length = ((entriesAt 0 before).map Entry.call).count .mark := by
  apply length_marks_eq
  intro noted member other
  apply place_eq_zero trail ?_ other
  rw [split]
  exact List.mem_append_left _ member

/-- Those that wait are told how many jobs are finished after the last mark. -/
theorem told (trail : protocol.Trail (releasing tally n m stop) steps strays s)
    (room : tally.finished + m ≤ tally.total) (member : (place, .passed k) ∈ s.entries) :
    k = tally.finished + m := by
  obtain ⟨before, after, split⟩ := List.append_of_mem member
  have history := Trail.turns trail
  rw [split] at history
  obtain ⟨rfl, reason⟩ := Turns.passed history
  have front := calls_prefix trail split
  have counted := marks_of_prefix trail split
  have few := count_le front
  obtain full | ⟨i, raised⟩ := reason
  · omega
  · -- the flag was raised, so every mark had been made
    have here : (i, .raised) ∈ s.entries := by
      rw [split]
      exact List.mem_append_left _ raised
    obtain rfl := place_eq_zero trail here (by simp [Entry.call])
    have raises : .raise ∈ (entriesAt 0 before).map Entry.call := by
      refine List.mem_map.mpr ⟨.raised, ?_, rfl⟩
      simp [entriesAt, raised]
    have all := count_of_raise front raises
    omega

/-- Once the thread that marks has made all its calls, nobody has to sleep. -/
theorem settled_of_released (trail : protocol.Trail (releasing tally n m stop) steps strays s)
    (ends : tally.finished + m = tally.total ∨ stop = true)
    (returned : s.threads[0]? = some ⟨.free, []⟩) :
    s.shared.tally = { tally with finished := tally.finished + m } ∧
      (s.shared.tally.complete = true ∨ Answered s.entries) := by
  have given := Protocol.Trail.doneBy_of_done orderly rfl trail returned
  have calls : (s.doneBy 0).map Entry.call = releaser m stop := (Option.some.inj given).symm
  have counted : s.shared.tally = { tally with finished := tally.finished + m } := by
    have marked := marks_of_prefix trail (List.append_nil s.entries).symm
    rw [← Crowd.doneBy, calls, count_releaser] at marked
    have reached := Turns.tally_eq (Trail.turns trail)
    rw [marked] at reached
    exact reached
  refine ⟨counted, ?_⟩
  obtain full | rfl := ends
  · left
    rw [counted]
    exact decide_eq_true (Nat.le_of_eq full.symm)
  · right
    -- its last two entries say that it raised the flag, and then woke all
    obtain ⟨first, last, own, -, tail⟩ := List.map_eq_append_iff.mp calls
    obtain ⟨x, rest, rfl, raised, tail⟩ := List.map_eq_cons_iff.mp tail
    obtain ⟨y, none, rfl, woke, tail⟩ := List.map_eq_cons_iff.mp tail
    obtain rfl := List.map_eq_nil_iff.mp tail
    obtain rfl := Entry.eq_raised raised
    obtain rfl := Entry.eq_woke woke
    have split : s.doneBy 0 = (first ++ [.raised]) ++ .woke :: [] := by simp [own]
    obtain ⟨earlier, later, entries, mine⟩ := split_of_entriesAt split
    refine ⟨earlier, 0, later, entries, 0, ?_⟩
    have raised : Entry.raised ∈ entriesAt 0 earlier := by simp [mine]
    simpa [entriesAt] using raised

theorem standing_zero (trail : protocol.Trail (releasing tally n m stop) steps strays s) :
    ∃ c, s.threads[0]? = some c := by
  have first : (releaser m stop :: List.replicate n [.wait])[0]? = some (releaser m stop) := rfl
  exact Protocol.Trail.standing_of_script trail first

/-- The thread that marks never sleeps. -/
theorem not_parked_zero (trail : protocol.Trail (releasing tally n m stop) steps strays s)
    (there : s.threads[0]? = some c) : c.stand ≠ .parked := by
  intro parked
  obtain ⟨script, given, order⟩ := Protocol.Trail.in_order orderly rfl trail there
  obtain rfl : releaser m stop = script := Option.some.inj given
  have waits : .wait ∈ releaser m stop := by
    rw [← order, parked]
    simp [Stand.under]
  exact wait_not_mem_releaser waits

theorem returned_or_steps (trail : protocol.Trail (releasing tally n m stop) steps strays s)
    (ends : tally.finished + m = tally.total ∨ stop = true) :
    s.Done .free ∨ ∃ t, protocol.Step s t := by
  by_cases going : ∃ t, protocol.Step s t
  · exact .inr going
  · have stuck : ∀ t, ¬ protocol.Step s t := fun t step => going ⟨t, step⟩
    refine .inl fun c member => ?_
    obtain ⟨place, standing⟩ := List.getElem?_of_mem member
    obtain returned | ⟨parked, asleep⟩ := returned_or_asleep trail stuck standing
    · exact returned
    · exfalso
      -- the thread that marks has returned, so nobody has reason to sleep any more
      obtain ⟨x, there⟩ := standing_zero trail
      have returned : x = ⟨.free, []⟩ := by
        obtain returned | ⟨parked, -⟩ := returned_or_asleep trail stuck there
        · exact returned
        · exact absurd parked (not_parked_zero trail there)
      rw [returned] at there
      apply (Trail.watched trail).not_missed
      refine ⟨⟨place, c, standing, parked, asleep⟩, ?_⟩
      refine (settled_of_released trail ends there).2.imp_left fun full => ⟨full, ?_⟩
      intro y among
      obtain ⟨i, at_⟩ := List.getElem?_of_mem among
      obtain rfl | ⟨parked, -⟩ := returned_or_asleep trail stuck at_
      · simp
      · simp [parked]

/-- A thread that waited has been told just one number. -/
theorem doneBy_succ (trail : protocol.Trail (releasing tally n m stop) steps strays s)
    (room : tally.finished + m ≤ tally.total) (done : s.Done .free) {i : Nat} (few : i < n) :
    s.doneBy (i + 1) = [.passed (tally.finished + m)] := by
  have given : (releaser m stop :: List.replicate n [.wait])[i + 1]? = some [.wait] := by
    simp [few]
  obtain ⟨c, there⟩ := Protocol.Trail.standing_of_script trail given
  obtain rfl := done c (List.mem_of_getElem? there)
  have calls := Protocol.Trail.doneBy_of_done orderly rfl trail there
  have waits : (s.doneBy (i + 1)).map Entry.call = [.wait] :=
    (Option.some.inj (given.symm.trans calls)).symm
  obtain ⟨entry, only, waited⟩ := List.map_eq_singleton_iff.mp waits
  cases entry with
  | passed k =>
    have member : (i + 1, .passed k) ∈ s.entries := by
      apply Crowd.mem_doneBy.mp
      rw [only]
      exact List.mem_singleton_self _
    rw [only, told trail room member]
  | _ => simp [Entry.call] at waited

end

/-- What can be said of a gate at any time. -/
structure Kept (tally : Tally) (scripts : List (List Call)) (steps strays : Nat) (s : Users) :
    Prop where
  noneMissed : ¬ Missed s
  /-- The marks are told numbers that count up, and the tally has counted them. -/
  counted : marks s.entries = List.range' (tally.finished + 1) (marks s.entries).length
  tally_eq : s.shared.tally =
    { tally with finished := tally.finished + (marks s.entries).length }
  /-- Who waits is let through when all jobs are finished or the flag is up, and is told how many
  jobs are finished. -/
  passed : ∀ before place finished after,
    s.entries = before ++ (place, .passed finished) :: after →
      finished = tally.finished + (marks before).length ∧
        (tally.total ≤ finished ∨ Raised before)
  /-- Only those who sleep can keep the others from going on. -/
  stuck : (∀ t, ¬ protocol.Step s t) → ∀ place c, s.threads[place]? = some c →
    c = ⟨.free, []⟩ ∨ c.stand = .parked ∧ place ∈ s.shared.asleep
  bounded : steps ≤ (3 * scripts.length + 4) * (scripts.map List.length).sum + 3 * strays

/-- What comes of `n` threads that wait for one that marks `m` jobs and may stop the run. -/
structure Released (tally : Tally) (n m : Nat) (stop : Bool) (s : Users) : Prop where
  goesOn : s.Done .free ∨ ∃ t, protocol.Step s t
  told : ∀ place finished, (place, .passed finished) ∈ s.entries → finished = tally.finished + m
  answers : s.Done .free → ∀ i < n, s.doneBy (i + 1) = [.passed (tally.finished + m)]
  awaited : s.Done .free → tally.complete = false → tally.await m stop = some s.shared.tally

/-- However the calls of any number of threads on a gate interleave, and whoever wakes without
reason: no thread sleeps on at a settled gate, be it settled by the count, when whoever counted the
last job has woken all, or by a flag that was raised before all were woken. The marks are told
numbers that count up, and nobody is let through before the gate is settled. If one thread marks
jobs, and then the count is full or it raises the flag and wakes all, then everyone that waits
returns, and is told how many jobs are finished after the last mark. -/
theorem no_wakeup_is_missed (tally : Tally) :
    (∀ scripts steps strays s, protocol.Trail (start tally scripts) steps strays s →
      Kept tally scripts steps strays s) ∧
    ∀ n m stop, tally.finished + m ≤ tally.total →
      (tally.finished + m = tally.total ∨ stop = true) →
      ∀ steps strays s, protocol.Trail (releasing tally n m stop) steps strays s →
        Released tally n m stop s := by
  constructor
  · intro scripts steps strays s trail
    have turns := Trail.turns trail
    refine ⟨(Trail.watched trail).not_missed, turns.marks_eq, turns.tally_eq, ?_, ?_,
      Trail.steps_le trail⟩
    · intro before place finished after split
      rw [split] at turns
      exact turns.passed
    · intro stuck place c standing
      exact returned_or_asleep trail stuck standing
  · intro n m stop room ends steps strays s trail
    refine ⟨returned_or_steps trail ends, fun place finished => told trail room, ?_, ?_⟩
    · intro done i few
      exact doneBy_succ trail room done few
    · intro done lacking
      obtain ⟨c, there⟩ := standing_zero trail
      rw [done c (List.mem_of_getElem? there)] at there
      rw [(settled_of_released trail ends there).1]
      unfold Tally.await
      rw [lacking, if_neg]
      obtain full | rfl := ends
      · simp [full]
      · simpa using room

/-- A thread finds that a job is missing and the flag is down. Before it falls asleep, the flag is
raised, and it is woken afterwards. -/
theorem late_sleeper_is_woken :
    ∃ s, protocol.Trail (releasing ⟨2, 0⟩ 1 1 true) 13 0 s ∧
      s.entries = [(0, .marked 1), (0, .raised), (0, .woke), (1, .passed 1)] ∧
      ¬ Missed s ∧ s.doneBy 1 = [.passed 1] := by
  have begins : protocol.Trail (releasing ⟨2, 0⟩ 1 1 true) 0 0 _ := .start
  have marked : protocol.Trail (releasing ⟨2, 0⟩ 1 1 true) 3 0
      ⟨⟨⟨2, 1⟩, false, false, []⟩, [⟨.free, [.raise, .wake]⟩, ⟨.free, [.wait]⟩],
        [(0, .marked 1)]⟩ :=
    ((begins.act 0 rfl (.enters rfl rfl)).act 0 rfl .counts).act 0 rfl .leaves
  have sleeps : protocol.Trail (releasing ⟨2, 0⟩ 1 1 true) 7 0
      ⟨⟨⟨2, 1⟩, true, false, [1]⟩, [⟨.free, [.wake]⟩, ⟨.parked, []⟩],
        [(0, .marked 1), (0, .raised)]⟩ :=
    (((marked.act 1 rfl (.enters rfl rfl)).act 1 rfl (.lingers rfl)).act 0 rfl .raises).act 1 rfl
      .sleeps
  have wakes : protocol.Trail (releasing ⟨2, 0⟩ 1 1 true) 10 0
      ⟨⟨⟨2, 1⟩, true, false, []⟩, [⟨.free, []⟩, ⟨.parked, []⟩],
        [(0, .marked 1), (0, .raised), (0, .woke)]⟩ :=
    ((sleeps.act 0 rfl (.enters rfl rfl)).act 0 rfl .rings).act 0 rfl .leaves
  have passes := (wakes.act 1 rfl (.rises (by decide) rfl)).act 1 rfl (.passes rfl)
  have ends := passes.act 1 rfl .leaves
  obtain ⟨always, released⟩ := no_wakeup_is_missed ⟨2, 0⟩
  have kept := always _ _ _ _ ends
  have answers := (released 1 1 true (by decide) (by decide) _ _ _ ends).answers
  exact ⟨_, ends, rfl, kept.noneMissed, answers (by decide) 0 (by decide)⟩

end Gate

end Precedence

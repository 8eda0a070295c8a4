import Precedence.Contest
import Precedence.Proofs.Crowd
/-!
# The first report wins

A report fills the slot of the latch and raises its flag in two actions, and others may look at the
flag in between. Still, what the threads are told is the history of a latch that is used by one call
at a time (`Shows`): a report that is admitted takes its turn when it raises the flag. Until then it
holds the lock, so nobody finds in the slot what does not count yet, and whoever looks finds the
flag down.

In such a history just one report wins, as soon as any report was decided, and at most one call
finds its cause (`Turns.conserved`). A flag that is up stays up, also after the slot was emptied
(`first_report_wins`).
-/

namespace Precedence

/-- A latch holds nothing before the first report. -/
def StopLatch.Coherent (latch : StopLatch) : Prop := latch.stopped = false → latch.held = none

namespace Contest

/-- A call on a latch that nobody else uses meanwhile. -/
inductive Turn (latch : StopLatch) : Nat × Entry → StopLatch → Prop where
  | reports (place : Nat) (cause : StopCause) :
      Turn latch (place, .reported cause latch.admits) (latch.report cause)
  | looks (place : Nat) : Turn latch (place, .looked latch.stopped) latch
  | takes (place : Nat) : Turn latch (place, .took latch.held) latch.take

/-- Calls one after the other. -/
abbrev Turns : StopLatch → List (Nat × Entry) → StopLatch → Prop := History Turn

/-- The causes whose reports were the first. -/
def winners (entries : List (Nat × Entry)) : List StopCause :=
  entries.filterMap fun entry =>
    match entry.2 with
    | .reported cause true => some cause
    | _ => none

/-- The causes that were taken out. -/
def findings (entries : List (Nat × Entry)) : List StopCause :=
  entries.filterMap fun entry =>
    match entry.2 with
    | .took found => found
    | _ => none

/-- Whether a thread learns from it that the flag is up. -/
def Entry.tells : Entry → Bool
  | .reported _ _ => true
  | .looked stopped => stopped
  | .took found => found.isSome

/-- Some thread has learned that the flag is up. -/
def Known (entries : List (Nat × Entry)) : Prop := ∃ told ∈ entries, told.2.tells = true

/-- What the calls of a new latch come to, in the order in which they were decided. -/
structure Agreed (entries : List (Nat × Entry)) : Prop where
  atMostOne : (winners entries).length ≤ 1
  /-- As soon as any report was decided, just one of them was the first. -/
  exactlyOne : ∀ place cause first, (place, .reported cause first) ∈ entries →
    (winners entries).length = 1
  /-- Only the cause of the first report is found, and only once. -/
  found : ∀ before place cause after, entries = before ++ (place, .took (some cause)) :: after →
    winners before = [cause] ∧ findings before = [] ∧ findings after = []
  /-- A flag that is up stays up, and no report is the first any more. -/
  stays : ∀ before after, entries = before ++ after → Known before →
    (∀ place flag, (place, .looked flag) ∈ after → flag = true) ∧
      ∀ place cause first, (place, .reported cause first) ∈ after → first = false
  /-- Once the flag is known to be up, a take finds the cause, unless another take has. -/
  taken : ∀ before place found after, entries = before ++ (place, .took found) :: after →
    Known before → ∃ cause, winners before = [cause] ∧
      (found = some cause ∨ found = none ∧ ∃ i, (i, .took (some cause)) ∈ before)

/-- The call that comes to this. -/
def Entry.call : Entry → Call
  | .reported cause _ => .report cause
  | .looked _ => .look
  | .took _ => .take

/-- The call that a thread is in the middle of, as long as it is not decided. -/
def Stand.under : Stand → List Call
  | .checking cause | .filling cause | .raising cause => [.report cause]
  | .emptying => [.take]
  | .free | .leaving => []

/-- The actions that a call takes. -/
def Call.effort : Call → Nat
  | .report _ => 5
  | .look => 1
  | .take => 3

/-- The actions that are left there. -/
def Stand.effort : Stand → Nat
  | .free => 0
  | .leaving => 1
  | .raising _ | .emptying => 2
  | .filling _ => 3
  | .checking _ => 4

theorem opening {call : Call} {stand : Stand} (opens : call.entrance = some stand) :
    Opening Stand.holds Stand.under Stand.effort Call.effort call stand := by
  cases call with
  | report | take => exact Option.some.inj opens ▸ ⟨rfl, rfl, rfl⟩
  | look => simp [Call.entrance] at opens

/-! ## Histories of a latch -/

section
variable {a b : StopLatch} {entries before after : List (Nat × Entry)} {place : Nat}
  {cause : StopCause}

@[simp] theorem winners_nil : winners [] = [] := rfl
@[simp] theorem findings_nil : findings [] = [] := rfl

@[simp] theorem winners_reported (first : Bool) :
    winners ((place, .reported cause first) :: entries) =
      (if first then [cause] else []) ++ winners entries := by
  cases first <;> rfl

@[simp] theorem winners_looked (stopped : Bool) :
    winners ((place, .looked stopped) :: entries) = winners entries := rfl
@[simp] theorem winners_took (found : Option StopCause) :
    winners ((place, .took found) :: entries) = winners entries := rfl
@[simp] theorem findings_reported (first : Bool) :
    findings ((place, .reported cause first) :: entries) = findings entries := rfl
@[simp] theorem findings_looked (stopped : Bool) :
    findings ((place, .looked stopped) :: entries) = findings entries := rfl

@[simp] theorem findings_took (found : Option StopCause) :
    findings ((place, .took found) :: entries) = found.toList ++ findings entries := by
  cases found <;> rfl

theorem mem_findings : cause ∈ findings entries ↔
    ∃ place, (place, .took (some cause)) ∈ entries := by
  simp only [findings, List.mem_filterMap, Prod.exists]
  constructor
  · rintro ⟨place, entry, member, found⟩
    cases entry with
    | took taken => exact ⟨place, found ▸ member⟩
    | reported | looked => simp at found
  · rintro ⟨place, member⟩
    exact ⟨place, _, member, rfl⟩

theorem report_of_stopped (stopped : a.stopped = true) (cause : StopCause) :
    a.report cause = a := if_pos stopped

theorem report_of_down (down : a.stopped = false) (cause : StopCause) :
    a.report cause = ⟨true, some cause⟩ := by
  simp [StopLatch.report, down]

theorem Turn.of_took {found : Option StopCause} (turn : Turn a (place, .took found) b) :
    found = a.held ∧ b = a.take := by
  cases turn with
  | takes => exact ⟨rfl, rfl⟩

/-- What a thread learns at its turn is so when the turn is over. -/
theorem Turn.stopped {entry : Nat × Entry} (turn : Turn a entry b) (h : a.Coherent)
    (tells : entry.2.tells = true) : b.stopped = true := by
  cases turn with
  | reports place cause =>
    unfold StopLatch.report
    split
    · assumption
    · rfl
  | looks place => exact tells
  | takes place =>
    cases up : a.stopped with
    | true => exact up
    | false =>
      rw [Entry.tells, h up] at tells
      simp at tells

theorem Turn.coherent {entry : Nat × Entry} (turn : Turn a entry b) (h : a.Coherent) :
    b.Coherent := by
  cases turn with
  | reports place cause =>
    cases stopped : a.stopped with
    | true =>
      rw [report_of_stopped stopped]
      exact h
    | false => simp [report_of_down stopped, StopLatch.Coherent]
  | looks => exact h
  | takes => exact fun _ => rfl

namespace Turns

variable (history : Turns a entries b)
include history

theorem coherent (h : a.Coherent) : b.Coherent := by
  induction history with
  | nil => exact h
  | cons first _ ih => exact ih (first.coherent h)

/-- What was reported first is held until it is taken out. -/
theorem conserved (h : a.Coherent) :
    a.held.toList ++ winners entries = findings entries ++ b.held.toList := by
  induction history with
  | nil => simp
  | @cons a b c entry entries first _ ih =>
    have later := ih (first.coherent h)
    cases first with
    | reports place cause =>
      cases stopped : a.stopped with
      | true =>
        rw [report_of_stopped stopped] at later
        simpa [StopLatch.admits, stopped] using later
      | false =>
        rw [report_of_down stopped] at later
        simpa [StopLatch.admits, stopped, h stopped] using later
    | looks place => simpa using later
    | takes place =>
      have rest : winners entries = findings entries ++ c.held.toList := by
        simpa [StopLatch.take] using later
      simp [rest]

/-- The flag is raised by the report that wins. -/
theorem counted : a.stopped.toNat + (winners entries).length = b.stopped.toNat := by
  induction history with
  | nil => rfl
  | @cons a b c entry entries first _ ih =>
    rw [← ih]
    cases first with
    | reports place cause =>
      cases stopped : a.stopped with
      | true => simp [report_of_stopped stopped, StopLatch.admits, stopped]
      | false => simp [report_of_down stopped, StopLatch.admits, stopped, Nat.add_comm]
    | looks place => rfl
    | takes place => rfl

theorem stays_stopped (stopped : a.stopped = true) : b.stopped = true := by
  have flag := history.counted
  cases up : b.stopped with
  | true => rfl
  | false =>
    rw [stopped, up] at flag
    simp at flag

/-- Once the flag is up, every report is refused and every look finds it up. -/
theorem refused (stopped : a.stopped = true) :
    (∀ place cause first, (place, .reported cause first) ∈ entries → first = false) ∧
      ∀ place flag, (place, .looked flag) ∈ entries → flag = true := by
  induction history with
  | nil => simp
  | cons first _ ih =>
    cases first with
    | reports place cause =>
      rw [report_of_stopped stopped] at ih
      simpa [StopLatch.admits, stopped] using ih stopped
    | looks place => simpa [stopped] using ih stopped
    | takes place => simpa using ih stopped

theorem stopped_of_known (h : a.Coherent) (known : Known entries) : b.stopped = true := by
  obtain ⟨told, member, tells⟩ := known
  obtain ⟨before, after, rfl⟩ := List.append_of_mem member
  obtain ⟨c, d, earlier, turn, later⟩ := history.at_turn
  exact stays_stopped later (turn.stopped (coherent earlier h) tells)

/-- The slot of a new latch holds the cause of the first report until it is taken out. -/
theorem winners_eq (h : a.Coherent) (empty : a.held = none) :
    winners entries = findings entries ++ b.held.toList := by
  have conserved := history.conserved h
  rw [empty] at conserved
  exact conserved

theorem length_winners (down : a.stopped = false) :
    (winners entries).length = b.stopped.toNat := by
  have counted := history.counted
  rw [down] at counted
  simpa using counted

end Turns

theorem coherent_new : StopLatch.Coherent {} := fun _ => rfl

/-- On a new latch the cause that is found is that of the only winner, and it is found once. -/
theorem Turns.found_once
    (history : Turns {} (before ++ (place, .took (some cause)) :: after) b) :
    winners before = [cause] ∧ findings before = [] ∧ findings after = [] := by
  obtain ⟨c, d, earlier, turn, later⟩ := History.at_turn history
  have coherent := Turns.coherent earlier coherent_new
  have up : d.stopped = true := turn.stopped coherent rfl
  obtain ⟨holds, rfl⟩ := turn.of_took
  -- before, the only winner is in the slot; from then on there is no winner and an empty slot
  have few := Turns.length_winners earlier rfl
  have won := Turns.winners_eq earlier coherent_new rfl
  rw [← holds] at won
  have alone : findings before = [] := by
    have bound := Bool.toNat_le c.stopped
    rw [← few, won, List.length_append] at bound
    apply List.eq_nil_of_length_eq_zero
    simp only [Option.toList_some, List.length_singleton] at bound
    omega
  have lost : winners after = [] := by
    have count := Turns.counted later
    rw [up, Turns.stays_stopped later up] at count
    apply List.eq_nil_of_length_eq_zero
    omega
  have rest := Turns.winners_eq later (Turn.coherent turn coherent) rfl
  refine ⟨?_, alone, ?_⟩
  · rw [won, alone]
    rfl
  · rw [lost] at rest
    exact (List.append_eq_nil_iff.mp rest.symm).1

theorem Turns.found_of_known {found : Option StopCause}
    (history : Turns {} (before ++ (place, .took found) :: after) b) (known : Known before) :
    ∃ cause, winners before = [cause] ∧
      (found = some cause ∨ found = none ∧ ∃ i, (i, .took (some cause)) ∈ before) := by
  obtain ⟨c, d, earlier, turn, -⟩ := History.at_turn history
  have few := Turns.length_winners earlier rfl
  rw [Turns.stopped_of_known earlier coherent_new known] at few
  obtain ⟨cause, only⟩ := List.length_eq_one_iff.mp few
  have won := Turns.winners_eq earlier coherent_new rfl
  rw [only, ← turn.of_took.1] at won
  refine ⟨cause, only, ?_⟩
  cases found with
  | none =>
    rw [Option.toList_none, List.append_nil] at won
    exact .inr ⟨rfl, mem_findings.mp (won ▸ List.mem_singleton_self cause)⟩
  | some other =>
    have same : [] ++ [cause] = findings before ++ [other] := won
    have last := List.append_inj_right' same rfl
    exact .inl (congrArg some (List.singleton_inj.mp last).symm)

/-- The causes that win and that are found, one of each at most, on a new latch. -/
theorem Turns.agreed (history : Turns {} entries b) : Agreed entries where
  atMostOne := by
    rw [history.length_winners rfl]
    exact Bool.toNat_le b.stopped
  exactlyOne place cause first member := by
    have up : b.stopped = true := history.stopped_of_known coherent_new ⟨_, member, rfl⟩
    rw [history.length_winners rfl, up]
    rfl
  found _ _ _ _ same := Turns.found_once (same ▸ history)
  stays before after same known := by
    obtain ⟨c, earlier, later⟩ := History.split (same ▸ history)
    obtain ⟨reports, looks⟩ :=
      Turns.refused later (Turns.stopped_of_known earlier coherent_new known)
    exact ⟨looks, reports⟩
  taken _ _ _ _ same known := Turns.found_of_known (same ▸ history) known

end

/-! ## The latch that the threads see -/

/-- The thread at some place has filled the slot, and is about to raise the flag. -/
def Raises (s : Rivals) (cause : StopCause) : Prop :=
  ∃ (i : Nat) (c : Thread Stand Call), s.threads[i]? = some c ∧ c.stand = .raising cause

/-- The calls so far have left a latch, as if they had taken turns. The slot may hold a cause that
does not count yet. -/
structure Shows (s : Rivals) (latch : StopLatch) : Prop where
  history : Turns {} s.entries latch
  stopped : s.shared.latch.stopped = latch.stopped
  entitled : ∀ {i : Nat} {c : Thread Stand Call} {cause : StopCause}, s.threads[i]? = some c →
    c.stand = .filling cause ∨ c.stand = .raising cause → latch.stopped = false
  held : (∃ cause, Raises s cause ∧ s.shared.latch.held = some cause) ∨
    (∀ cause, ¬ Raises s cause) ∧ s.shared.latch.held = latch.held

section
variable {s t u : Rivals} {latch : StopLatch} {place steps strays : Nat}
  {scripts : List (List Call)} {c d : Thread Stand Call} {note : Option Entry} {shared : Contest}

theorem guarded : protocol.Guarded Stand.holds locked where
  act acts := by
    cases acts with
    | looks => exact .leavesAlone rfl rfl
    | enters opens free => exact .takes free (opening opens).locked rfl
    | leaves => exact .returns rfl rfl rfl
    | _ => exact .leavesAlone rfl rfl
  stray stray := stray.elim

theorem Trail.exclusive (trail : protocol.Trail (start scripts) steps strays s) :
    Protocol.Exclusive Stand.holds locked s :=
  Protocol.Trail.exclusive guarded (Protocol.exclusive_start rfl rfl) trail

theorem shows_start : Shows (start scripts) {} where
  history := .nil
  stopped := rfl
  entitled there busy := by
    obtain ⟨script, -, rfl⟩ := List.mem_map.mp (List.mem_of_getElem? there)
    simp at busy
  held := .inr ⟨fun _ => Crowd.not_occupied_start (by simp), rfl⟩

/-- While nobody starts or stops raising the flag, the same threads raise it. -/
theorem raises_after_iff (standing : s.threads[place]? = some c) {cause : StopCause}
    (before : c.stand ≠ .raising cause) (now : d.stand ≠ .raising cause) :
    Raises (s.after place note shared d) cause ↔ Raises s cause :=
  Crowd.occupied_after_iff standing before now

section
variable (exclusive : Protocol.Exclusive Stand.holds locked s)
  (standing : s.threads[place]? = some c) (holds : c.stand.holds = true)
include exclusive standing holds

/-- Whoever else fills the slot or raises the flag would hold the lock. -/
theorem eq_of_busy {i : Nat} {x : Thread Stand Call} {cause : StopCause}
    (there : s.threads[i]? = some x) (busy : x.stand = .filling cause ∨ x.stand = .raising cause) :
    i = place := by
  refine exclusive.alone there standing ?_ holds
  obtain stand | stand := busy <;> rw [stand] <;> rfl

theorem not_busy_after {cause : StopCause}
    (calm : ¬ (d.stand = .filling cause ∨ d.stand = .raising cause)) {i : Nat}
    {x : Thread Stand Call} (there : (s.after place note shared d).threads[i]? = some x) :
    ¬ (x.stand = .filling cause ∨ x.stand = .raising cause) := by
  obtain ⟨-, rfl⟩ | ⟨other, earlier⟩ := Crowd.of_after there
  · exact calm
  · exact fun busy => other (eq_of_busy exclusive standing holds earlier busy)

end

/-- Nobody else raises the flag while a thread holds the lock. -/
theorem not_raises_after (exclusive : Protocol.Exclusive Stand.holds locked s)
    (standing : s.threads[place]? = some c) (holds : c.stand.holds = true) {cause : StopCause}
    (now : d.stand ≠ .raising cause) : ¬ Raises (s.after place note shared d) cause :=
  fun raises => now (exclusive.of_occupied_after standing holds rfl raises)

namespace Shows

variable (h : Shows s latch)
include h

/-- An action that leaves the latch alone, and neither fills the slot nor raises the flag next. -/
theorem quiet (standing : s.threads[place]? = some c)
    (before : ∀ cause, c.stand ≠ .raising cause) (now : ∀ cause, d.stand ≠ .raising cause)
    (entitled : ∀ cause, d.stand = .filling cause → latch.stopped = false)
    (same : shared.latch = s.shared.latch)
    (history : Turns {} (s.after place note shared d).entries latch) :
    Shows (s.after place note shared d) latch where
  history := history
  stopped := (congrArg StopLatch.stopped same).trans h.stopped
  entitled there busy := by
    obtain ⟨-, rfl⟩ | ⟨-, earlier⟩ := Crowd.of_after there
    · exact entitled _ (busy.resolve_right (now _))
    · exact h.entitled earlier busy
  held := by
    simp only [raises_after_iff standing (before _) (now _), Crowd.after_shared, same]
    exact h.held

theorem held_of_raising {cause : StopCause} (exclusive : Protocol.Exclusive Stand.holds locked s)
    (standing : s.threads[place]? = some c) (raising : c.stand = .raising cause) :
    s.shared.latch.held = some cause := by
  obtain ⟨other, ⟨i, x, there, raises⟩, held⟩ | ⟨nobody, -⟩ := h.held
  · obtain rfl := eq_of_busy exclusive standing (by rw [raising]; rfl) there (.inr raises)
    obtain rfl := Option.some.inj (there.symm.trans standing)
    rw [held, Stand.raising.inj (raises.symm.trans raising)]
  · exact absurd ⟨place, _, standing, raising⟩ (nobody cause)

theorem held_of_holds (exclusive : Protocol.Exclusive Stand.holds locked s)
    (standing : s.threads[place]? = some c) (holds : c.stand.holds = true)
    (calm : ∀ cause, c.stand ≠ .raising cause) : s.shared.latch.held = latch.held := by
  obtain ⟨cause, ⟨i, x, there, raises⟩, -⟩ | ⟨-, held⟩ := h.held
  · obtain rfl := eq_of_busy exclusive standing holds there (.inr raises)
    obtain rfl := Option.some.inj (there.symm.trans standing)
    exact absurd raises (calm cause)
  · exact held

theorem act (exclusive : Protocol.Exclusive Stand.holds locked s)
    (standing : s.threads[place]? = some c) (acts : Act s.shared c note shared d) :
    ∃ latch, Shows (s.after place note shared d) latch := by
  cases acts with
  | looks =>
    refine ⟨latch, h.quiet standing (by simp) (by simp) (by simp) rfl ?_⟩
    rw [h.stopped]
    exact h.history.concat (.looks place)
  | @enters call stand rest opens free =>
    have calm : ∀ cause, stand ≠ .filling cause ∧ stand ≠ .raising cause := by
      intro cause
      cases call <;> simp [Call.entrance] at opens <;> simp [← opens]
    refine ⟨latch, h.quiet standing (by simp) (fun cause => (calm cause).2) ?_ rfl ?_⟩
    · exact fun cause fills => absurd fills (calm cause).1
    · simpa using h.history
  | @isRefused cause rest stopped =>
    have up : latch.stopped = true := h.stopped ▸ stopped
    refine ⟨latch, h.quiet standing (by simp) (by simp) (by simp) rfl ?_⟩
    have refused : Turn latch _ _ := .reports place cause
    rw [report_of_stopped up, StopLatch.admits, up] at refused
    exact h.history.concat refused
  | @isAdmitted cause rest down =>
    refine ⟨latch, h.quiet standing (by simp) (by simp) ?_ rfl (by simpa using h.history)⟩
    exact fun _ _ => h.stopped ▸ down
  | @fills cause rest =>
    have down := h.entitled standing (.inl rfl)
    refine ⟨latch, by simpa using h.history, h.stopped, ?_, ?_⟩
    · exact fun _ _ => down
    · exact .inl ⟨cause, ⟨place, _, Crowd.arrived standing, rfl⟩, rfl⟩
  | @raises cause rest =>
    -- the report takes its turn now, and the slot holds its cause already
    have down := h.entitled standing (.inr rfl)
    have filled := h.held_of_raising exclusive standing rfl
    have won : Turn latch _ _ := .reports place cause
    rw [report_of_down down, StopLatch.admits, down] at won
    refine ⟨⟨true, some cause⟩, h.history.concat won, rfl, ?_, .inr ⟨?_, filled⟩⟩
    · exact fun there busy => absurd busy (not_busy_after exclusive standing rfl (by simp) there)
    · exact fun other => not_raises_after exclusive standing rfl (by simp)
  | empties =>
    have held := h.held_of_holds exclusive standing rfl (by simp)
    refine ⟨latch.take, ?_, h.stopped, ?_, .inr ⟨?_, rfl⟩⟩
    · rw [held]
      exact h.history.concat (.takes place)
    · exact fun there busy => absurd busy (not_busy_after exclusive standing rfl (by simp) there)
    · exact fun other => not_raises_after exclusive standing rfl (by simp)
  | leaves =>
    refine ⟨latch, h.quiet standing (by simp) (by simp) (by simp) rfl (by simpa using h.history)⟩

end Shows

theorem Trail.shows (trail : protocol.Trail (start scripts) steps strays s) :
    ∃ latch, Shows s latch := by
  induction trail with
  | start => exact ⟨{}, shows_start⟩
  | step before step ih =>
    obtain ⟨latch, h⟩ := ih
    cases step with
    | act standing acts => exact h.act (Trail.exclusive before) standing acts
  | stray _ stray _ => exact stray.elim

/-! ## Every call returns -/

theorem orderly : protocol.Orderly Entry.call Stand.under := by
  intro place shared c note shared' d acts
  cases acts with
  | enters opens free =>
    rw [(opening opens).begun]
    rfl
  | _ => rfl

theorem acts_of_holds {s : Contest} (holds : c.stand.holds = true) : protocol.Acts place s c := by
  obtain ⟨stand, calls⟩ := c
  cases stand with
  | free => simp [Stand.holds] at holds
  | checking cause =>
    cases stopped : s.latch.stopped with
    | true => exact ⟨_, _, _, .isRefused stopped⟩
    | false => exact ⟨_, _, _, .isAdmitted stopped⟩
  | filling => exact ⟨_, _, _, .fills⟩
  | raising => exact ⟨_, _, _, .raises⟩
  | emptying => exact ⟨_, _, _, .empties⟩
  | leaving => exact ⟨_, _, _, .leaves⟩

theorem acts_or_done_of_free {s : Contest} (free : s.locked = false)
    (lacks : c.stand.holds = false) : protocol.Acts place s c ∨ c = ⟨.free, []⟩ := by
  obtain ⟨stand, calls⟩ := c
  cases stand with
  | free =>
    match calls with
    | [] => exact .inr rfl
    | .look :: _ => exact .inl ⟨_, _, _, .looks⟩
    | .report _ :: _ => exact .inl ⟨_, _, _, .enters rfl free⟩
    | .take :: _ => exact .inl ⟨_, _, _, .enters rfl free⟩
  | _ => simp [Stand.holds] at lacks

/-- As long as some call has not returned, some thread can act. -/
theorem exists_step (trail : protocol.Trail (start scripts) steps strays s)
    (going : ¬ s.Done .free) : ∃ t, protocol.Step s t :=
  (Trail.exclusive trail).exists_step acts_of_holds acts_or_done_of_free going

/-- Every action of a thread leaves it less to do. -/
theorem Act.effort_lt {s : Contest} (acts : Act s c note shared d) :
    Thread.effort Stand.effort Call.effort d < Thread.effort Stand.effort Call.effort c := by
  cases acts with
  | enters opens free =>
    have idles : Stand.free.effort = 0 := rfl
    exact Nat.le_of_eq ((opening opens).effort_add_one idles _)
  | _ =>
    simp only [Thread.effort, Stand.effort, Call.effort, List.map_cons, List.sum_cons]
    omega

theorem Trail.steps_le (trail : protocol.Trail (start scripts) steps strays s) :
    steps ≤ 5 * (scripts.map List.length).sum := by
  have idles : Stand.free.effort = 0 := rfl
  refine Protocol.Trail.steps_le idles (fun call => ?_) Act.effort_lt trail
  cases call <;> simp [Call.effort]

end

/-- However the calls of any number of threads on a new latch interleave, of all reports just one is
told that it was the first, as soon as one was decided. Its cause, and no other one, is found by one
take at most. Once a thread has learned that the flag is up, every look finds it up and no report is
the first, whatever is taken out; and a take finds the cause unless another take has. All calls
return, each thread's in their order. -/
theorem first_report_wins {scripts : List (List Call)} {steps strays : Nat} {s : Rivals}
    (trail : protocol.Trail (start scripts) steps strays s) :
    Agreed s.entries ∧ (s.Done .free ∨ ∃ t, protocol.Step s t) ∧
      steps ≤ 5 * (scripts.map List.length).sum ∧
      (s.Done .free → ∀ place script, scripts[place]? = some script →
        (s.doneBy place).map Entry.call = script) := by
  obtain ⟨latch, shows⟩ := Trail.shows trail
  refine ⟨Turns.agreed shows.history, ?_, Trail.steps_le trail, ?_⟩
  · by_cases done : s.Done .free
    · exact .inl done
    · exact .inr (exists_step trail done)
  · intro done place script given
    obtain ⟨c, standing⟩ := trail.standing_of_script given
    obtain rfl := done c (List.mem_of_getElem? standing)
    have calls := trail.doneBy_of_done orderly rfl standing
    exact (Option.some.inj (given.symm.trans calls)).symm

/-- One thread looks after the other one has filled the slot, and finds the flag down. Its report
comes too late, its first take finds the other cause, and its second take finds nothing. -/
theorem second_report_loses :
    let a := StopCause.internal (.cycle "a")
    let b := StopCause.internal (.cycle "b")
    let scripts := [[.report a], [.look, .report b, .take, .take]]
    let entries := [(1, .looked false), (0, .reported a true), (1, .reported b false),
      (1, .took (some a)), (1, .took none)]
    ∃ s, protocol.Trail (start scripts) 15 0 s ∧ s.entries = entries ∧ s.Done .free ∧
      Agreed entries := by
  intro a b scripts entries
  have begins : protocol.Trail (start scripts) 0 0 _ := .start
  have fills := ((begins.act 0 rfl (.enters rfl rfl)).act 0 rfl (.isAdmitted rfl)).act 0 rfl .fills
  have raised : protocol.Trail (start scripts) 6 0
      ⟨⟨⟨true, some a⟩, false⟩, [⟨.free, []⟩, ⟨.free, [.report b, .take, .take]⟩],
        entries.take 2⟩ :=
    ((fills.act 1 rfl .looks).act 0 rfl .raises).act 0 rfl .leaves
  have refused : protocol.Trail (start scripts) 9 0
      ⟨⟨⟨true, some a⟩, false⟩, [⟨.free, []⟩, ⟨.free, [.take, .take]⟩], entries.take 3⟩ :=
    ((raised.act 1 rfl (.enters rfl rfl)).act 1 rfl (.isRefused rfl)).act 1 rfl .leaves
  have emptied : protocol.Trail (start scripts) 12 0
      ⟨⟨⟨true, none⟩, false⟩, [⟨.free, []⟩, ⟨.free, [.take]⟩], entries.take 4⟩ :=
    ((refused.act 1 rfl (.enters rfl rfl)).act 1 rfl .empties).act 1 rfl .leaves
  have ends := ((emptied.act 1 rfl (.enters rfl rfl)).act 1 rfl .empties).act 1 rfl .leaves
  exact ⟨_, ends, rfl, by decide, (first_report_wins ends).1⟩

end Contest

end Precedence

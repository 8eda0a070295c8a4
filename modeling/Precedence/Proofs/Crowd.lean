import Precedence.Crowd
import Precedence.Proofs.Sums
/-!
# Whatever the turns of the threads

Some facts hold for all threads that keep simple rules, whatever they share and in whatever order
they act. A lock that is only taken when it is free is held by one thread at a time (`Exclusive`).
Whoever is asleep stands where threads sleep, if sleepers do not act (`Sleepers`).
Every thread works off its calls in order (`Trail.in_order`). If each action uses up some effort,
and gains back no more than is put by in the shared state, there are only so many
(`Trail.effort_le`).

What the calls came to is often the history of something simpler than the shared state, where each
call takes a single turn. A `History` can be cut at any entry (`History.split`).
-/

namespace Precedence

/-! ## Histories -/

/-- Turns that are taken one after the other, with what is noted at each of them. -/
inductive History {State Entry : Type} (turn : State → Entry → State → Prop) :
    State → List Entry → State → Prop where
  | nil {a : State} : History turn a [] a
  | cons {a b c : State} {entry : Entry} {entries : List Entry} (first : turn a entry b)
      (later : History turn b entries c) : History turn a (entry :: entries) c

namespace History

variable {State Entry : Type} {turn : State → Entry → State → Prop} {a b c : State}
  {entry : Entry} {entries before after : List Entry}

theorem concat (history : History turn a entries b) (last : turn b entry c) :
    History turn a (entries ++ [entry]) c := by
  induction history with
  | nil => exact .cons last .nil
  | cons first _ ih => exact .cons first (ih last)

/-- Between any two turns there is a state. -/
theorem split (history : History turn a (before ++ after) c) :
    ∃ b, History turn a before b ∧ History turn b after c := by
  induction before generalizing a with
  | nil => exact ⟨a, .nil, history⟩
  | cons entry rest ih =>
    cases history with
    | cons first later =>
      obtain ⟨b, earlier, following⟩ := ih later
      exact ⟨b, .cons first earlier, following⟩

/-- A history before a turn, the turn, and the history after it. -/
theorem at_turn (history : History turn a (before ++ entry :: after) c) :
    ∃ b b', History turn a before b ∧ turn b entry b' ∧ History turn b' after c := by
  obtain ⟨b, earlier, following⟩ := history.split
  cases following with
  | cons first later => exact ⟨b, _, earlier, first, later⟩

end History

variable {Shared Stand Call Entry : Type}

/-! ## What lies ahead of a thread -/

/-- What is left of a call where a thread stands, and what its other calls cost. -/
def Thread.effort (left : Stand → Nat) (cost : Call → Nat) (c : Thread Stand Call) : Nat :=
  left c.stand + (c.calls.map cost).sum

/-- What holds where a call leads that takes the lock first: the thread has the lock, is in the
middle of that call, and has all of it ahead but this one action. -/
structure Opening (holds : Stand → Bool) (under : Stand → List Call) (left : Stand → Nat)
    (cost : Call → Nat) (call : Call) (stand : Stand) : Prop where
  locked : holds stand = true
  begun : under stand = [call]
  ahead : left stand + 1 = cost call

section
variable {holds : Stand → Bool} {under : Stand → List Call} {left : Stand → Nat}
  {cost : Call → Nat} {call : Call} {idle stand : Stand}

theorem Opening.effort_add_one (opening : Opening holds under left cost call stand)
    (idles : left idle = 0) (calls : List Call) :
    Thread.effort left cost ⟨stand, calls⟩ + 1 = Thread.effort left cost ⟨idle, call :: calls⟩ := by
  have ahead := opening.ahead
  simp only [Thread.effort, idles, List.map_cons, List.sum_cons]
  omega

theorem Thread.effort_idle_le {w : Nat} (idles : left idle = 0) (each : ∀ call, cost call ≤ w)
    (script : List Call) : Thread.effort left cost ⟨idle, script⟩ ≤ w * script.length := by
  unfold Thread.effort
  induction script with
  | nil => simp [idles]
  | cons call rest ih =>
    have one := each call
    simp only [List.map_cons, List.sum_cons, List.length_cons, Nat.mul_succ] at ih ⊢
    omega

end

/-! ## What one action changes -/

theorem entriesAt_append {place : Nat} {before after : List (Nat × Entry)} :
    entriesAt place (before ++ after) = entriesAt place before ++ entriesAt place after := by
  simp [entriesAt]

/-- The entries of all threads, cut at an entry of one of them. -/
theorem split_of_entriesAt {place : Nat} {entry : Entry} {entries : List (Nat × Entry)}
    {before after : List Entry} (split : entriesAt place entries = before ++ entry :: after) :
    ∃ earlier later, entries = earlier ++ (place, entry) :: later ∧
      entriesAt place earlier = before := by
  unfold entriesAt at split
  obtain ⟨front, back, own, rfl, rest⟩ := List.map_eq_append_iff.mp split
  obtain ⟨first, others, rfl, rfl, -⟩ := List.map_eq_cons_iff.mp rest
  obtain ⟨earlier, tail, rfl, kept, rest⟩ := List.filter_eq_append_iff.mp own
  obtain ⟨skipped, later, rfl, foreign, mine, -⟩ := List.filter_eq_cons_iff.mp rest
  obtain ⟨i, entry⟩ := first
  obtain rfl : i = place := by simpa using mine
  refine ⟨earlier ++ skipped, later, by simp, ?_⟩
  have none : skipped.filter (·.1 = i) = [] := List.filter_eq_nil_iff.mpr foreign
  rw [entriesAt_append, entriesAt, entriesAt, kept, none]
  simp

namespace Crowd

variable {s : Crowd Shared Stand Call Entry} {place i : Nat} {c d x : Thread Stand Call}
  {note : Option Entry} {shared : Shared}

@[simp] theorem after_shared : (s.after place note shared d).shared = shared := rfl
@[simp] theorem after_threads :
    (s.after place note shared d).threads = s.threads.set place d := rfl
@[simp] theorem after_entries :
    (s.after place note shared d).entries = s.entries ++ note.toList.map (place, ·) := rfl
@[simp] theorem start_shared (idle : Stand) (scripts : List (List Call)) :
    (start shared idle scripts : Crowd Shared Stand Call Entry).shared = shared := rfl
@[simp] theorem start_entries (idle : Stand) (scripts : List (List Call)) :
    (start shared idle scripts : Crowd Shared Stand Call Entry).entries = [] := rfl

/-- Whoever is at some place has just acted, or was there before. -/
theorem of_after (there : (s.after place note shared d).threads[i]? = some x) :
    i = place ∧ x = d ∨ i ≠ place ∧ s.threads[i]? = some x := by
  rw [after_threads] at there
  exact of_getElem?_set there

theorem arrived (standing : s.threads[place]? = some c) :
    (s.after place note shared d).threads[place]? = some d := by
  have bound := (List.getElem?_eq_some_iff.mp standing).1
  simp [bound]

theorem stayed (there : s.threads[i]? = some x) (other : i ≠ place) :
    (s.after place note shared d).threads[i]? = some x := by
  rw [after_threads, List.getElem?_set_ne (Ne.symm other)]
  exact there

/-- Threads that stand differently are in different places. -/
theorem ne_of_stand_ne {j : Nat} (one : s.threads[i]? = some c) (other : s.threads[j]? = some d)
    (differ : c.stand ≠ d.stand) : i ≠ j := by
  rintro rfl
  exact differ (congrArg Thread.stand (Option.some.inj (one.symm.trans other)))

/-- Some thread stands there. -/
def Occupied (s : Crowd Shared Stand Call Entry) (stand : Stand) : Prop :=
  ∃ (i : Nat) (c : Thread Stand Call), s.threads[i]? = some c ∧ c.stand = stand

/-- If whoever acts does not stand there before or after, others stand there as before. -/
theorem occupied_after_iff (standing : s.threads[place]? = some c) {stand : Stand}
    (before : c.stand ≠ stand) (now : d.stand ≠ stand) :
    (s.after place note shared d).Occupied stand ↔ s.Occupied stand := by
  constructor
  · rintro ⟨i, x, there, stands⟩
    obtain ⟨-, rfl⟩ | ⟨-, earlier⟩ := of_after there
    · exact absurd stands now
    · exact ⟨i, x, earlier, stands⟩
  · rintro ⟨i, x, there, stands⟩
    have other : i ≠ place := by
      rintro rfl
      exact before (Option.some.inj (standing.symm.trans there) ▸ stands)
    exact ⟨i, x, stayed there other, stands⟩

/-- At first no thread stands anywhere else than between two calls. -/
theorem not_occupied_start {shared : Shared} {idle stand : Stand} {scripts : List (List Call)}
    (other : stand ≠ idle) :
    ¬ (start shared idle scripts : Crowd Shared Stand Call Entry).Occupied stand := by
  rintro ⟨i, c, there, stands⟩
  obtain ⟨script, -, rfl⟩ := List.mem_map.mp (List.mem_of_getElem? there)
  exact other stands.symm

/-- When all calls are made, no thread stands anywhere else than between two calls. -/
theorem Done.not_occupied {idle stand : Stand} (done : s.Done idle) (other : stand ≠ idle) :
    ¬ s.Occupied stand := by
  rintro ⟨i, c, there, stands⟩
  obtain rfl := done c (List.mem_of_getElem? there)
  exact other stands.symm

@[simp] theorem doneBy_after : (s.after place note shared d).doneBy i =
    s.doneBy i ++ if i = place then note.toList else [] := by
  unfold doneBy
  rw [after_entries, entriesAt_append]
  congr 1
  unfold entriesAt
  by_cases here : i = place
  · cases note <;> simp [here]
  · cases note <;> simp [here, Ne.symm here]

@[simp] theorem seen_after : (s.after place note shared d).seen = s.seen ++ note.toList := by
  simp [seen, Function.comp_def]

@[simp] theorem seen_start (idle : Stand) (scripts : List (List Call)) :
    (start shared idle scripts : Crowd Shared Stand Call Entry).seen = [] := rfl

theorem mem_doneBy {entry : Entry} : entry ∈ s.doneBy place ↔ (place, entry) ∈ s.entries := by
  simp [doneBy, entriesAt]

/-- A sum over the threads. -/
def total (f : Thread Stand Call → Nat) (s : Crowd Shared Stand Call Entry) : Nat :=
  (s.threads.map f).sum

/-- What lies ahead of threads that have begun nothing. -/
theorem total_start_le {shared : Shared} {idle : Stand} {scripts : List (List Call)}
    {left : Stand → Nat} {cost : Call → Nat} {w : Nat} (idles : left idle = 0)
    (each : ∀ call, cost call ≤ w) :
    total (Thread.effort left cost)
        (start shared idle scripts : Crowd Shared Stand Call Entry) ≤
      w * (scripts.map List.length).sum := by
  unfold total start
  induction scripts with
  | nil => simp
  | cons script rest ih =>
    have one := Thread.effort_idle_le idles each script
    simp only [List.map_cons, List.sum_cons, Nat.mul_add] at ih ⊢
    omega

theorem total_after (standing : s.threads[place]? = some c) (f : Thread Stand Call → Nat) :
    (s.after place note shared d).total f + f c = s.total f + f d :=
  sum_map_set standing d f

end Crowd

namespace Protocol

variable {p : Protocol Shared Stand Call Entry} {s t u : Crowd Shared Stand Call Entry}
  {steps strays : Nat}

/-- The thread at that place acts next. -/
theorem Trail.act (trail : p.Trail s steps strays t) (place : Nat) {c d : Thread Stand Call}
    {note : Option Entry} {shared : Shared} (standing : t.threads[place]? = some c)
    (acts : p.Act place t.shared c note shared d) :
    p.Trail s (steps + 1) strays (t.after place note shared d) :=
  trail.step (.act standing acts)

/-- What holds at first, and is kept by actions and stray events, holds throughout. -/
theorem Trail.invariant {I : Crowd Shared Stand Call Entry → Prop}
    (trail : p.Trail s steps strays u) (first : I s)
    (act : ∀ {t place c d note shared}, I t → t.threads[place]? = some c →
      p.Act place t.shared c note shared d → I (t.after place note shared d))
    (stray : ∀ {t shared}, I t → p.Stray t.shared shared → I { t with shared }) : I u := by
  induction trail with
  | start => exact first
  | step _ step ih =>
    cases step with
    | act standing acts => exact act ih standing acts
  | stray _ befalls ih => exact stray ih befalls

theorem Trail.length_eq (trail : p.Trail s steps strays u) :
    u.threads.length = s.threads.length := by
  refine trail.invariant (I := fun u => u.threads.length = s.threads.length) rfl ?_ fun ih _ => ih
  intro t place c d note shared ih _ _
  rw [Crowd.after_threads, List.length_set]
  exact ih

/-! ## Locks -/

/-- What an action does with a lock: who acts holds it before and after, and it is taken before and
after. -/
inductive Handling (holds holds' taken taken' : Bool) : Prop where
  | leavesAlone (same : holds' = holds) (still : taken' = taken)
  | takes (free : taken = false) (has : holds' = true) (shut : taken' = true)
  | returns (had : holds = true) (lacks : holds' = false) (free : taken' = false)

/-- The lock is only taken when it is free, and only given back by a thread that holds it. -/
structure Guarded (p : Protocol Shared Stand Call Entry) (holds : Stand → Bool)
    (taken : Shared → Bool) : Prop where
  act : ∀ {place shared c note shared' d}, p.Act place shared c note shared' d →
    Handling (holds c.stand) (holds d.stand) (taken shared) (taken shared')
  stray : ∀ {shared shared'}, p.Stray shared shared' → taken shared' = taken shared

structure Exclusive (holds : Stand → Bool) (taken : Shared → Bool)
    (s : Crowd Shared Stand Call Entry) : Prop where
  alone : ∀ {i j : Nat} {c d : Thread Stand Call}, s.threads[i]? = some c →
    s.threads[j]? = some d → holds c.stand = true → holds d.stand = true → i = j
  free : taken s.shared = false → ∀ {i : Nat} {c : Thread Stand Call}, s.threads[i]? = some c →
    holds c.stand = false
  held : taken s.shared = true → ∃ (i : Nat) (c : Thread Stand Call), s.threads[i]? = some c ∧
    holds c.stand = true

section
variable {holds : Stand → Bool} {taken : Shared → Bool} {place : Nat} {c d : Thread Stand Call}
  {note : Option Entry} {shared : Shared}

theorem Exclusive.of_free (free : taken s.shared = false)
    (nobody : ∀ {i : Nat} {x : Thread Stand Call}, s.threads[i]? = some x →
      holds x.stand = false) : Exclusive holds taken s where
  alone one _ has _ := by
    rw [nobody one] at has
    simp at has
  free _ := nobody
  held shut := by
    rw [free] at shut
    simp at shut

theorem Exclusive.of_holder (standing : s.threads[place]? = some c) (has : holds c.stand = true)
    (shut : taken s.shared = true)
    (only : ∀ {i : Nat} {x : Thread Stand Call}, s.threads[i]? = some x →
      holds x.stand = true → i = place) : Exclusive holds taken s where
  alone one other has has' := (only one has).trans (only other has').symm
  free opened := by
    rw [shut] at opened
    simp at opened
  held _ := ⟨place, c, standing, has⟩

theorem exclusive_start {idle : Stand} {scripts : List (List Call)} (idles : holds idle = false)
    (free : taken shared = false) :
    Exclusive holds taken (.start shared idle scripts : Crowd Shared Stand Call Entry) := by
  refine .of_free free fun there => ?_
  obtain ⟨script, -, rfl⟩ := List.mem_map.mp (List.mem_of_getElem? there)
  exact idles

/-- While one thread holds the lock, no other one does. -/
theorem Exclusive.holds_eq_false (h : Exclusive holds taken s)
    (standing : s.threads[place]? = some c) (has : holds c.stand = true) {i : Nat}
    (other : i ≠ place) (there : s.threads[i]? = some d) : holds d.stand = false := by
  cases has' : holds d.stand with
  | false => rfl
  | true => exact absurd (h.alone there standing has' has) other

/-- Whoever holds the lock after an action that leaves it alone held it before. -/
theorem Exclusive.of_leavesAlone (h : Exclusive holds taken s)
    (standing : s.threads[place]? = some c) (same : holds d.stand = holds c.stand)
    (still : taken shared = taken s.shared) :
    Exclusive holds taken (s.after place note shared d) := by
  have before {i : Nat} {x : Thread Stand Call}
      (there : (s.after place note shared d).threads[i]? = some x) :
      ∃ y, s.threads[i]? = some y ∧ holds y.stand = holds x.stand := by
    obtain ⟨rfl, rfl⟩ | ⟨-, before⟩ := Crowd.of_after there
    · exact ⟨c, standing, same.symm⟩
    · exact ⟨x, before, rfl⟩
  refine ⟨?_, ?_, ?_⟩
  · intro i j x y one other has has'
    obtain ⟨x', one, eq⟩ := before one
    obtain ⟨y', other, eq'⟩ := before other
    exact h.alone one other (eq.trans has) (eq'.trans has')
  · intro free i x there
    obtain ⟨y, there, eq⟩ := before there
    exact eq ▸ h.free (still ▸ free) there
  · intro shut
    obtain ⟨i, x, there, has⟩ := h.held (still ▸ shut)
    by_cases here : i = place
    · subst here
      obtain rfl := Option.some.inj (there.symm.trans standing)
      exact ⟨i, d, Crowd.arrived standing, same.trans has⟩
    · exact ⟨i, x, Crowd.stayed there here, has⟩

theorem Exclusive.act (h : Exclusive holds taken s) (standing : s.threads[place]? = some c)
    (handling : Handling (holds c.stand) (holds d.stand) (taken s.shared) (taken shared)) :
    Exclusive holds taken (s.after place note shared d) := by
  cases handling with
  | leavesAlone same still => exact h.of_leavesAlone standing same still
  | takes free has shut =>
    refine .of_holder (Crowd.arrived standing) has shut fun {i x} there has => ?_
    obtain ⟨here, -⟩ | ⟨-, before⟩ := Crowd.of_after there
    · exact here
    · rw [h.free free before] at has
      simp at has
  | returns had lacks free =>
    refine .of_free free fun {i x} there => ?_
    obtain ⟨-, rfl⟩ | ⟨other, before⟩ := Crowd.of_after there
    · exact lacks
    · exact h.holds_eq_false standing had other before

theorem Trail.exclusive (guarded : p.Guarded holds taken) (first : Exclusive holds taken s)
    (trail : p.Trail s steps strays u) : Exclusive holds taken u := by
  refine trail.invariant first ?_ ?_
  · intro t place c d note shared h standing acts
    exact h.act standing (guarded.act acts)
  · intro t shared h stray
    have same := guarded.stray stray
    exact ⟨h.alone, fun free => h.free (same ▸ free), fun shut => h.held (same ▸ shut)⟩

/-- While a thread holds the lock, no other one stands where the lock is held. -/
theorem Exclusive.not_occupied (h : Exclusive holds taken s)
    (standing : s.threads[place]? = some c) (has : holds c.stand = true) {stand : Stand}
    (needs : holds stand = true) (other : c.stand ≠ stand) : ¬ s.Occupied stand := by
  rintro ⟨i, x, there, rfl⟩
  obtain rfl := h.alone there standing needs has
  exact other (congrArg Thread.stand (Option.some.inj (standing.symm.trans there)))

/-- After an action of the thread that holds the lock, no other one stands where the lock is
held. -/
theorem Exclusive.of_occupied_after (h : Exclusive holds taken s)
    (standing : s.threads[place]? = some c) (has : holds c.stand = true) {stand : Stand}
    (needs : holds stand = true) (occupied : (s.after place note shared d).Occupied stand) :
    d.stand = stand := by
  obtain ⟨i, x, there, rfl⟩ := occupied
  obtain ⟨-, rfl⟩ | ⟨other, earlier⟩ := Crowd.of_after there
  · rfl
  · exact absurd (h.alone earlier standing needs has) other

end

/-! ## Who can act -/

section
variable {holds : Stand → Bool} {taken : Shared → Bool} {place : Nat} {c : Thread Stand Call}

def Acts (p : Protocol Shared Stand Call Entry) (place : Nat) (shared : Shared)
    (c : Thread Stand Call) : Prop :=
  ∃ note shared' d, p.Act place shared c note shared' d

theorem not_acts_of_stuck (stuck : ∀ t, ¬ p.Step s t) (standing : s.threads[place]? = some c) :
    ¬ p.Acts place s.shared c := by
  rintro ⟨note, shared, d, acts⟩
  exact stuck _ (.act standing acts)

/-- When nobody can act, all are at rest, if whoever holds the lock can act, and so can everyone
else who is not at rest while the lock is free. -/
theorem Exclusive.rests_of_stuck (h : Exclusive holds taken s) (stuck : ∀ t, ¬ p.Step s t)
    {rests : Nat → Thread Stand Call → Prop}
    (holder : ∀ {i : Nat} {x : Thread Stand Call}, holds x.stand = true → p.Acts i s.shared x)
    (other : ∀ {i : Nat} {x : Thread Stand Call}, taken s.shared = false →
      holds x.stand = false → p.Acts i s.shared x ∨ rests i x)
    (standing : s.threads[place]? = some c) : rests place c := by
  have unlocked : taken s.shared = false := by
    cases locked : taken s.shared with
    | false => rfl
    | true =>
      obtain ⟨i, x, there, has⟩ := h.held locked
      exact absurd (holder has) (not_acts_of_stuck stuck there)
  exact (other unlocked (h.free unlocked standing)).resolve_left
    (not_acts_of_stuck stuck standing)

theorem Exclusive.exists_step (h : Exclusive holds taken s) {idle : Stand}
    (holder : ∀ {i : Nat} {x : Thread Stand Call}, holds x.stand = true → p.Acts i s.shared x)
    (other : ∀ {i : Nat} {x : Thread Stand Call}, taken s.shared = false →
      holds x.stand = false → p.Acts i s.shared x ∨ x = ⟨idle, []⟩)
    (going : ¬ s.Done idle) : ∃ t, p.Step s t := by
  refine Classical.byContradiction fun none => going fun c member => ?_
  obtain ⟨i, standing⟩ := List.getElem?_of_mem member
  exact h.rests_of_stuck (fun t step => none ⟨t, step⟩) holder other standing

end

/-! ## Sleepers -/

/-- Whoever is asleep stands where threads sleep. -/
structure Sleepers (asleep : Shared → List Nat) (parked : Stand)
    (s : Crowd Shared Stand Call Entry) : Prop where
  once : (asleep s.shared).Nodup
  parked : ∀ {i : Nat}, i ∈ asleep s.shared →
    ∃ c, s.threads[i]? = some c ∧ c.stand = parked

/-- Whoever is asleep does not act, and only the thread that acts falls asleep. -/
structure Restful (p : Protocol Shared Stand Call Entry) (asleep : Shared → List Nat)
    (parked : Stand) : Prop where
  awake : ∀ {place shared c note shared' d}, p.Act place shared c note shared' d →
    c.stand = parked → place ∉ asleep shared
  act : ∀ {place shared c note shared' d}, p.Act place shared c note shared' d →
    (asleep shared').Sublist (asleep shared) ∨
      d.stand = parked ∧ asleep shared' = place :: asleep shared
  stray : ∀ {shared shared'}, p.Stray shared shared' → (asleep shared').Sublist (asleep shared)

namespace Sleepers

variable {asleep : Shared → List Nat} {parked : Stand} {place : Nat} {c d : Thread Stand Call}
  {note : Option Entry} {shared : Shared}

theorem start {idle : Stand} {scripts : List (List Call)} (nobody : asleep shared = []) :
    Sleepers asleep parked (.start shared idle scripts : Crowd Shared Stand Call Entry) := by
  constructor
  · rw [Crowd.start_shared, nobody]
    exact .nil
  · intro i member
    rw [Crowd.start_shared, nobody] at member
    simp at member

variable (h : Sleepers asleep parked s)
include h

theorem not_mem (standing : s.threads[place]? = some c)
    (awake : c.stand = parked → place ∉ asleep s.shared) : place ∉ asleep s.shared := by
  intro member
  obtain ⟨x, there, stands⟩ := h.parked member
  obtain rfl := Option.some.inj (standing.symm.trans there)
  exact awake stands member

theorem act (standing : s.threads[place]? = some c) (awake : place ∉ asleep s.shared)
    (slumber : (asleep shared).Sublist (asleep s.shared) ∨
      d.stand = parked ∧ asleep shared = place :: asleep s.shared) :
    Sleepers asleep parked (s.after place note shared d) := by
  have others {i : Nat} (member : i ∈ asleep s.shared) :
      ∃ x, (s.after place note shared d).threads[i]? = some x ∧ x.stand = parked := by
    obtain ⟨x, there, stands⟩ := h.parked member
    refine ⟨x, Crowd.stayed there ?_, stands⟩
    rintro rfl
    exact awake member
  obtain fewer | ⟨stands, falls⟩ := slumber
  · exact ⟨h.once.sublist fewer, fun member => others (fewer.subset member)⟩
  · constructor
    · rw [Crowd.after_shared, falls]
      exact List.nodup_cons.mpr ⟨awake, h.once⟩
    · intro i member
      rw [Crowd.after_shared, falls, List.mem_cons] at member
      obtain rfl | member := member
      · exact ⟨d, Crowd.arrived standing, stands⟩
      · exact others member

/-- What the sleepers have still to do counts for each of them. -/
theorem mul_length_le_total {f : Thread Stand Call → Nat} {w : Nat}
    (each : ∀ c, c.stand = parked → w ≤ f c) : w * (asleep s.shared).length ≤ s.total f := by
  apply mul_length_le_sum h.once
  intro i member
  obtain ⟨c, there, stands⟩ := h.parked member
  refine ⟨f c, ?_, each c stands⟩
  rw [List.getElem?_map, there]
  rfl

theorem length_le : (asleep s.shared).length ≤ s.threads.length := by
  have counted := h.mul_length_le_total (f := fun _ => 1) (w := 1) fun _ _ => Nat.le_refl 1
  rwa [Nat.one_mul, Crowd.total, List.map_const', List.sum_replicate_nat, Nat.mul_one] at counted

end Sleepers

theorem Trail.sleepers {asleep : Shared → List Nat} {parked : Stand}
    (restful : p.Restful asleep parked) (first : Sleepers asleep parked s)
    (trail : p.Trail s steps strays u) : Sleepers asleep parked u := by
  refine trail.invariant first ?_ ?_
  · intro t place c d note shared h standing acts
    exact h.act standing (h.not_mem standing (restful.awake acts)) (restful.act acts)
  · intro t shared h stray
    have fewer := restful.stray stray
    exact ⟨h.once.sublist fewer, fun member => h.parked (fewer.subset member)⟩

/-! ## The order of calls -/

/-- At every action a thread notes what its call comes to, or has as much to note as before. -/
def Orderly (p : Protocol Shared Stand Call Entry) (call : Entry → Call)
    (under : Stand → List Call) : Prop :=
  ∀ {place shared c note shared' d}, p.Act place shared c note shared' d →
    note.toList.map call ++ (under d.stand ++ d.calls) = under c.stand ++ c.calls

/-- What the calls of a thread came to, what it is in the middle of, and what it has yet to begin,
make all its calls. -/
theorem Trail.in_order {call : Entry → Call} {under : Stand → List Call}
    (orderly : p.Orderly call under) {shared : Shared} {idle : Stand} (idles : under idle = [])
    {scripts : List (List Call)} (trail : p.Trail (.start shared idle scripts) steps strays s)
    {place : Nat} {c : Thread Stand Call} (standing : s.threads[place]? = some c) :
    ∃ script, scripts[place]? = some script ∧
      (s.doneBy place).map call ++ (under c.stand ++ c.calls) = script := by
  revert place c
  refine trail.invariant (I := fun s => ∀ {place c}, s.threads[place]? = some c →
    ∃ script, scripts[place]? = some script ∧
      (s.doneBy place).map call ++ (under c.stand ++ c.calls) = script) ?_ ?_ fun ih _ => ih
  · intro place c there
    simp only [Crowd.start, List.getElem?_map, Option.map_eq_some_iff] at there
    obtain ⟨script, given, rfl⟩ := there
    exact ⟨script, given, by simp [Crowd.doneBy, entriesAt, Crowd.start, idles]⟩
  · intro t place c d note shared' ih standing acts i x there
    obtain ⟨rfl, rfl⟩ | ⟨other, before⟩ := Crowd.of_after there
    · obtain ⟨script, given, rest⟩ := ih standing
      refine ⟨script, given, ?_⟩
      rw [Crowd.doneBy_after, if_pos rfl, List.map_append, List.append_assoc, orderly acts]
      exact rest
    · obtain ⟨script, given, rest⟩ := ih before
      refine ⟨script, given, ?_⟩
      rw [Crowd.doneBy_after, if_neg other, List.append_nil]
      exact rest

/-- A thread that has made all its calls has made the calls of its script. -/
theorem Trail.doneBy_of_done {call : Entry → Call} {under : Stand → List Call}
    (orderly : p.Orderly call under) {shared : Shared} {idle : Stand} (idles : under idle = [])
    {scripts : List (List Call)} (trail : p.Trail (.start shared idle scripts) steps strays s)
    {place : Nat} (standing : s.threads[place]? = some ⟨idle, []⟩) :
    scripts[place]? = some ((s.doneBy place).map call) := by
  obtain ⟨script, given, order⟩ := trail.in_order orderly idles standing
  rw [idles, List.append_nil, List.append_nil] at order
  exact order ▸ given

/-- There is a thread for each script. -/
theorem Trail.standing_of_script {shared : Shared} {idle : Stand} {scripts : List (List Call)}
    (trail : p.Trail (.start shared idle scripts) steps strays s) {place : Nat}
    {script : List Call} (given : scripts[place]? = some script) :
    ∃ c, s.threads[place]? = some c := by
  have bound : place < s.threads.length := by
    rw [trail.length_eq, Crowd.start, List.length_map]
    exact (List.getElem?_eq_some_iff.mp given).1
  exact ⟨_, List.getElem?_eq_getElem bound⟩

/-- A thread makes the calls of its script in order. -/
theorem Trail.calls_prefix {call : Entry → Call} {under : Stand → List Call}
    (orderly : p.Orderly call under) {shared : Shared} {idle : Stand} (idles : under idle = [])
    {scripts : List (List Call)} (trail : p.Trail (.start shared idle scripts) steps strays s)
    {place : Nat} {script : List Call} (given : scripts[place]? = some script) :
    (s.doneBy place).map call <+: script := by
  obtain ⟨c, standing⟩ := trail.standing_of_script given
  obtain ⟨other, same, order⟩ := trail.in_order orderly idles standing
  obtain rfl := Option.some.inj (given.symm.trans same)
  exact ⟨_, order⟩

/-- Whoever has noted something is there. -/
theorem Trail.standing_of_mem {shared : Shared} {idle : Stand} {scripts : List (List Call)}
    (trail : p.Trail (.start shared idle scripts) steps strays s) {place : Nat} {entry : Entry}
    (member : (place, entry) ∈ s.entries) : ∃ c, s.threads[place]? = some c := by
  suffices bound : ∀ noted ∈ s.entries, noted.1 < s.threads.length by
    exact ⟨_, List.getElem?_eq_getElem (bound _ member)⟩
  refine trail.invariant (I := fun s => ∀ noted ∈ s.entries, noted.1 < s.threads.length)
    (by simp) ?_ fun ih _ => ih
  intro t place c d note shared ih standing _ noted member
  rw [Crowd.after_threads, List.length_set]
  rw [Crowd.after_entries, List.mem_append, List.mem_map] at member
  obtain earlier | ⟨entry, -, rfl⟩ := member
  · exact ih noted earlier
  · exact (List.getElem?_eq_some_iff.mp standing).1

/-- What a thread has noted comes from calls of its script. -/
theorem Trail.call_mem {call : Entry → Call} {under : Stand → List Call}
    (orderly : p.Orderly call under) {shared : Shared} {idle : Stand} (idles : under idle = [])
    {scripts : List (List Call)} (trail : p.Trail (.start shared idle scripts) steps strays s)
    {place : Nat} {entry : Entry} (member : (place, entry) ∈ s.entries) :
    ∃ script, scripts[place]? = some script ∧ call entry ∈ script := by
  obtain ⟨c, standing⟩ := trail.standing_of_mem member
  obtain ⟨script, given, rfl⟩ := trail.in_order orderly idles standing
  refine ⟨_, given, List.mem_append_left _ ?_⟩
  exact List.mem_map_of_mem (Crowd.mem_doneBy.mpr member)

/-! ## How long it takes -/

/-- If every action uses up more effort than it adds to what is put by in the shared state, the
number of actions is bounded. Stray events may take something away from there. -/
theorem Trail.effort_le (effort : Thread Stand Call → Nat) (credit : Shared → Nat) (loss : Nat)
    (act : ∀ {steps strays t place c d note shared}, p.Trail s steps strays t →
      t.threads[place]? = some c → p.Act place t.shared c note shared d →
      effort d + credit t.shared + 1 ≤ effort c + credit shared)
    (stray : ∀ {shared shared'}, p.Stray shared shared' → credit shared ≤ credit shared' + loss)
    (trail : p.Trail s steps strays u) :
    steps + u.total effort + credit s.shared ≤
      s.total effort + credit u.shared + loss * strays := by
  induction trail with
  | start => omega
  | step before step ih =>
    cases step with
    | @act place c d note shared standing acts =>
      have less := act before standing acts
      have moved := @Crowd.total_after _ _ _ _ _ _ _ d note shared standing effort
      simp only [Crowd.after_shared] at moved ⊢
      omega
  | @stray steps strays t shared _ befalls ih =>
    have lost := stray befalls
    have same : Crowd.total effort { t with shared } = t.total effort := rfl
    rw [same, Nat.mul_succ]
    change _ ≤ s.total effort + credit shared + _
    omega

/-- If every action uses up some effort, and no call costs more than `w`, each call takes `w` actions
at most. -/
theorem Trail.steps_le {left : Stand → Nat} {cost : Call → Nat} {w : Nat} {shared : Shared}
    {idle : Stand} {scripts : List (List Call)} (idles : left idle = 0)
    (each : ∀ call, cost call ≤ w)
    (act : ∀ {place shared c note shared' d}, p.Act place shared c note shared' d →
      Thread.effort left cost d < Thread.effort left cost c)
    (trail : p.Trail (.start shared idle scripts) steps strays u) :
    steps ≤ w * (scripts.map List.length).sum := by
  have spent := Trail.effort_le (Thread.effort left cost) (fun _ => 0) 0
    (fun _ _ acts => act acts) (fun _ => Nat.le_refl 0) trail
  have ahead : Crowd.total (Thread.effort left cost)
      (.start shared idle scripts : Crowd Shared Stand Call Entry) ≤
        w * (scripts.map List.length).sum := Crowd.total_start_le idles each
  omega

end Protocol

end Precedence

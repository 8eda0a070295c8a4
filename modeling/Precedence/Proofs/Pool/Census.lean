import Mathlib.Algebra.GroupWithZero.Nat
import Precedence.Proofs.Pool.Deed
import Precedence.Proofs.Sums
/-!
# Sums over the workers

A `census` adds up a number over the positions of all workers, and `hands` lists the jobs that the
workers hold in some way. When one worker moves, only its own share changes (`census_set`); a wakeup
changes nothing that does not tell a parked worker from a woken one. `Deed.census` and
`Deed.count_hands` say so of every deed. `Crew` tells which workers have been spawned.
-/

namespace Precedence

namespace Pool

def census (f : Position → Nat) (positions : List Position) : Nat := (positions.map f).sum

/-- The jobs that the workers hold in the way that `f` says. -/
def hands (f : Position → List JobId) (positions : List Position) : List JobId :=
  positions.flatMap f

section
variable {positions : List Position} {worker : Nat} {p : Position}

theorem census_set (standing : positions[worker]? = some p) (q : Position) (f : Position → Nat) :
    census f (positions.set worker q) + f p = census f positions + f q :=
  sum_map_set standing q f

theorem census_eq_zero {f : Position → Nat} (none : ∀ p ∈ positions, f p = 0) :
    census f positions = 0 :=
  List.sum_eq_zero_iff_forall_eq_nat.mpr fun n member => by
    obtain ⟨p, inside, rfl⟩ := List.mem_map.mp member
    exact none p inside

theorem census_le_length {f : Position → Nat} (bound : ∀ p, f p ≤ 1) :
    census f positions ≤ positions.length := by
  induction positions with
  | nil => simp [census]
  | cons p rest ih =>
    have one := bound p
    simp only [census, List.map_cons, List.sum_cons, List.length_cons] at ih ⊢
    omega

/-- What does not tell parked workers from woken ones does not notice a wakeup. -/
theorem apply_woken {β : Type} {f : Position → β} (same : f .taking = f .parked) (p : Position) :
    f p.woken = f p := by
  unfold Position.woken
  split
  · rename_i parked; rw [parked, same]
  · rfl

theorem census_woken {f : Position → Nat} (same : f .taking = f .parked) :
    census f (positions.map Position.woken) = census f positions := by
  simp [census, Function.comp_def, apply_woken same]

/-- A wakeup of everyone adds at most one for each worker. -/
theorem census_woken_le {f : Position → Nat} (bound : f .taking ≤ f .parked + 1) :
    census f (positions.map Position.woken) ≤ census f positions + positions.length := by
  have one (p : Position) : f p.woken ≤ f p + 1 := by
    unfold Position.woken
    split
    · rename_i parked; exact parked ▸ bound
    · omega
  simpa [census, Function.comp_def] using sum_map_le_add_length one

/-- One worker moves and wakes another. -/
theorem census_set_woken {other : Nat} (standing : positions[worker]? = some p)
    (asleep : positions[other]? = some .parked) (awake : p ≠ .parked) (q : Position)
    (f : Position → Nat) :
    census f ((positions.set other .taking).set worker q) + f p + f .parked =
      census f positions + f q + f .taking := by
  have differ : other ≠ worker := by
    rintro rfl
    exact awake (Option.some.inj (standing.symm.trans asleep))
  have still : (positions.set other .taking)[worker]? = some p :=
    (List.getElem?_set_ne differ).trans standing
  have first := census_set asleep .taking f
  have second := census_set still q f
  omega

theorem count_hands (f : Position → List JobId) (job : JobId) :
    (hands f positions).count job = census (fun p => (f p).count job) positions := by
  simp [hands, census, List.count_flatMap, Function.comp_def]

theorem length_hands (f : Position → List JobId) :
    (hands f positions).length = census (fun p => (f p).length) positions := by
  simp [hands, census, List.length_flatMap]

theorem hands_replicate (n : Nat) {f : Position → List JobId} (none : f p = []) :
    hands f (List.replicate n p) = [] := by
  simp [hands, none]

theorem hands_eq_nil {f : Position → List JobId} (none : ∀ p ∈ positions, f p = []) :
    hands f positions = [] :=
  List.flatMap_eq_nil_iff.mpr none

theorem mem_hands {f : Position → List JobId} {job : JobId}
    (standing : positions[worker]? = some p) (holds : job ∈ f p) : job ∈ hands f positions :=
  List.mem_flatMap.mpr ⟨p, List.mem_of_getElem? standing, holds⟩

end

section
variable {plan : Plan} {s t : Pool} {worker : Nat} {p q : Position}

namespace Deed

theorem awake (done : Deed plan s worker p q t) : p ≠ .parked := by cases done <;> simp

theorem born (done : Deed plan s worker p q t) : p ≠ .unborn := by cases done <;> simp

theorem next_born (done : Deed plan s worker p q t) : q ≠ .unborn := by
  cases done with
  | @reportsLate _ aftermath | @wakes aftermath => cases aftermath <;> simp [Aftermath.next]
  | _ => simp

/-- One worker moves, and before that some parked ones may have been woken. -/
theorem positions_eq (done : Deed plan s worker p q t) :
    t.positions = s.positions.set worker q ∨
      t.positions = (s.positions.map Position.woken).set worker q ∨
      ∃ other, s.positions[other]? = some .parked ∧
        t.positions = (s.positions.set other .taking).set worker q := by
  cases done with
  | broadcasts => exact .inr (.inl (by simp))
  | @notifies other _ asleep => exact .inr (.inr ⟨other, asleep, by simp⟩)
  | _ => exact .inl (by simp)

/-- The worker itself is not among those that are woken. -/
theorem still (standing : s.positions[worker]? = some p) (done : Deed plan s worker p q t) :
    ∃ woken : List Position, t.positions = woken.set worker q ∧ woken[worker]? = some p ∧
      (∀ f : Position → Nat, f .taking = f .parked → census f woken = census f s.positions) ∧
      ∀ i : Nat, woken[i]? = s.positions[i]? ∨
        s.positions[i]? = some .parked ∧ woken[i]? = some .taking := by
  obtain moved | moved | ⟨other, asleep, moved⟩ := done.positions_eq
  · exact ⟨_, moved, standing, fun _ _ => rfl, fun _ => .inl rfl⟩
  · refine ⟨_, moved, ?_, fun _ => census_woken, fun i => ?_⟩
    · simp [standing, Position.woken, done.awake]
    · cases found : s.positions[i]? with
      | none => simp [found]
      | some r => by_cases parked : r = .parked <;> simp [found, Position.woken, parked]
  · refine ⟨_, moved, ?_, fun f same => ?_, fun i => ?_⟩
    · have differ : other ≠ worker := by
        rintro rfl
        exact done.awake (Option.some.inj (standing.symm.trans asleep))
      rw [List.getElem?_set_ne differ, standing]
    · have := census_set asleep .taking f
      omega
    · by_cases here : other = i
      · subst here
        obtain ⟨bound, parked⟩ := List.getElem?_eq_some_iff.mp asleep
        simp [parked, bound]
      · simp [here]

theorem size (done : Deed plan s worker p q t) : t.positions.length = s.positions.length := by
  obtain moved | moved | ⟨_, _, moved⟩ := done.positions_eq <;> simp [moved]

theorem arrives (standing : s.positions[worker]? = some p) (done : Deed plan s worker p q t) :
    t.positions[worker]? = some q := by
  obtain ⟨woken, moved, here, _⟩ := done.still standing
  have bound := (List.getElem?_eq_some_iff.mp here).1
  simp [moved, bound]

/-- Another worker stays where it is, unless it was parked and is woken. -/
theorem others (standing : s.positions[worker]? = some p) (done : Deed plan s worker p q t)
    {i : Nat} (differ : i ≠ worker) :
    t.positions[i]? = s.positions[i]? ∨
      s.positions[i]? = some .parked ∧ t.positions[i]? = some .taking := by
  obtain ⟨woken, moved, _, _, kept⟩ := done.still standing
  rw [moved, List.getElem?_set_ne differ.symm]
  exact kept i

/-- A sum that does not tell parked workers from woken ones changes by the worker that acts. -/
theorem census (standing : s.positions[worker]? = some p) (done : Deed plan s worker p q t)
    {f : Position → Nat} (same : f .taking = f .parked) :
    Pool.census f t.positions + f p = Pool.census f s.positions + f q := by
  obtain ⟨woken, moved, here, sum, _⟩ := done.still standing
  rw [moved, census_set here, sum f same]

theorem count_hands (standing : s.positions[worker]? = some p) (done : Deed plan s worker p q t)
    {f : Position → List JobId} (same : f .taking = f .parked) (job : JobId) :
    (hands f t.positions).count job + (f p).count job =
      (hands f s.positions).count job + (f q).count job := by
  simp only [Pool.count_hands]
  exact done.census standing (f := fun p => (f p).count job) (by simp [same])

theorem length_hands (standing : s.positions[worker]? = some p) (done : Deed plan s worker p q t)
    {f : Position → List JobId} (same : f .taking = f .parked) :
    (hands f t.positions).length + (f p).length = (hands f s.positions).length + (f q).length := by
  simp only [Pool.length_hands]
  exact done.census standing (f := fun p => (f p).length) (by simp [same])

end Deed

/-! ## Who has been spawned -/

/-- A worker has not been spawned if and only if the orchestrator has not come to it yet. -/
structure Crew (plan : Plan) (s : Pool) : Prop where
  size : s.positions.length = plan.workers
  unborn : ∀ worker, s.positions[worker]? = some .unborn ↔
    worker < plan.workers ∧ ∃ n, s.stage = .spawning n ∧ n ≤ worker

theorem Deed.unborn_iff (standing : s.positions[worker]? = some p)
    (done : Deed plan s worker p q t) (i : Nat) :
    t.positions[i]? = some .unborn ↔ s.positions[i]? = some .unborn := by
  by_cases here : i = worker
  · subst here
    simp [done.arrives standing, standing, done.born, done.next_born]
  · obtain kept | ⟨parked, taking⟩ := done.others standing here
    · rw [kept]
    · simp [parked, taking]

theorem Deed.stage_eq (done : Deed plan s worker p q t) :
    t.stage = s.stage ∨ t.stage = s.stage.woken ∧ s.tallyHeld = false := by
  cases done with
  | countsLast free | wakes free => exact .inr ⟨by simp, free⟩
  | _ => exact .inl (by simp)

theorem Deed.spawning_iff (done : Deed plan s worker p q t) (n : Nat) :
    t.stage = .spawning n ↔ s.stage = .spawning n := by
  obtain same | ⟨woken, _⟩ := done.stage_eq
  · rw [same]
  · rw [woken]
    cases stage : s.stage <;> simp [Stage.woken]

theorem crew_start (plan : Plan) : Crew plan (.start plan) := by
  refine ⟨by simp [start], fun worker => ?_⟩
  simp [start, List.getElem?_replicate]

theorem Crew.duty (crew : Crew plan s) (done : Duty plan s t) : Crew plan t := by
  obtain ⟨size, unborn⟩ := crew
  cases done with
  | @spawns n at_ room =>
    refine ⟨by simpa using size, fun i => ?_⟩
    by_cases here : n = i
    · subst here
      simp [size, room]
    · simp only [place_positions, note_positions, List.getElem?_set_ne here, unborn i, at_,
        Stage.spawning.injEq, exists_eq_left']
      omega
  | assembles at_ full =>
    refine ⟨by simpa using size, fun i => ?_⟩
    simp only [note_positions, unborn i, at_, Stage.spawning.injEq, exists_eq_left']
    simp only [reduceCtorEq, false_and, exists_false, and_false, iff_false]
    omega
  | broadcasts at_ =>
    refine ⟨by simpa using size, fun i => ?_⟩
    have woken : ∀ p : Position, p.woken = .unborn ↔ p = .unborn := by
      intro p; unfold Position.woken; split <;> simp_all
    simp [woken, unborn i, at_]
  | settles at_ | dozes at_ | sleeps at_ | closes at_ | returns at_ =>
    exact ⟨by simpa using size, fun i => by simp [unborn i, at_]⟩

theorem Crew.stray (crew : Crew plan s) (woken : Stray s t) : Crew plan t := by
  obtain ⟨size, unborn⟩ := crew
  cases woken with
  | @worker w asleep =>
    refine ⟨by simpa using size, fun i => ?_⟩
    rw [place_stage, ← unborn i, place_positions]
    by_cases here : w = i
    · subst here
      obtain ⟨bound, parked⟩ := List.getElem?_eq_some_iff.mp asleep
      simp [parked, bound]
    · rw [List.getElem?_set_ne here]
  | orchestrator asleep => exact ⟨size, fun i => by simp [unborn i, asleep]⟩

theorem crew (h : Reachable plan s) : Crew plan s := by
  refine Reachable.invariant (crew_start plan) ?_ ?_ h
  · intro s t worker p q _ ih standing done
    refine ⟨done.size.trans ih.size, fun i => ?_⟩
    simp only [done.unborn_iff standing, done.spawning_iff, ih.unborn i]
  · intro s t _ ih chore
    cases chore with
    | duty done => exact ih.duty done
    | stray woken => exact ih.stray woken

/-- The worker that is spawned next has not been spawned yet. -/
theorem Crew.next_unborn (crew : Crew plan s) {n : Nat} (at_ : s.stage = .spawning n)
    (room : n < plan.workers) : s.positions[n]? = some .unborn :=
  (crew.unborn n).mpr ⟨room, n, at_, Nat.le_refl n⟩

/-- Once the pool is complete, every worker has been spawned. -/
theorem Crew.born (crew : Crew plan s) (complete : ∀ n, s.stage ≠ .spawning n) :
    ∀ p ∈ s.positions, p ≠ .unborn := by
  rintro p member rfl
  obtain ⟨i, standing⟩ := List.mem_iff_getElem?.mp member
  obtain ⟨_, n, at_, _⟩ := (crew.unborn i).mp standing
  exact complete n at_

/-- A chore moves only workers that sleep or have not been spawned. -/
theorem Chore.others (crew : Crew plan s) (chore : Chore plan s t) (i : Nat) :
    t.positions[i]? = s.positions[i]? ∨
      (s.positions[i]? = some .parked ∨ s.positions[i]? = some .unborn) ∧
        t.positions[i]? = some .taking := by
  have moved : ∀ {j : Nat}, s.positions[j]? = some .parked ∨ s.positions[j]? = some .unborn →
      (s.positions.set j .taking)[i]? = s.positions[i]? ∨
        (s.positions[i]? = some .parked ∨ s.positions[i]? = some .unborn) ∧
          (s.positions.set j .taking)[i]? = some .taking := by
    intro j idle
    by_cases here : j = i
    · subst here
      have bound : j < s.positions.length := by
        rcases idle with standing | standing <;> exact (List.getElem?_eq_some_iff.mp standing).1
      exact .inr ⟨idle, by simp [bound]⟩
    · exact .inl (List.getElem?_set_ne here)
  cases chore with
  | duty done =>
    cases done with
    | spawns at_ room => exact moved (.inr (crew.next_unborn at_ room))
    | broadcasts =>
      cases found : s.positions[i]? with
      | none => simp [found]
      | some p => by_cases parked : p = .parked <;> simp [found, Position.woken, parked]
    | closes => exact .inl (by simp)
    | _ => exact .inl rfl
  | stray woken =>
    cases woken with
    | worker asleep => exact moved (.inl asleep)
    | orchestrator => exact .inl rfl

/-- A chore changes nothing that does not tell parked workers, or such that have not been spawned,
from woken ones. -/
theorem Chore.map_positions (crew : Crew plan s) (chore : Chore plan s t) {β : Type}
    {f : Position → β} (unborn : f .taking = f .unborn) (parked : f .taking = f .parked) :
    t.positions.map f = s.positions.map f := by
  refine List.ext_getElem? fun i => ?_
  rw [List.getElem?_map, List.getElem?_map]
  obtain kept | ⟨asleep | unspawned, taking⟩ := chore.others crew i
  · rw [kept]
  · simp [asleep, taking, parked]
  · simp [unspawned, taking, unborn]

theorem Chore.hands (crew : Crew plan s) (chore : Chore plan s t) {f : Position → List JobId}
    (unborn : f .taking = f .unborn) (parked : f .taking = f .parked) :
    hands f t.positions = hands f s.positions := by
  simp only [Pool.hands, List.flatMap_def, chore.map_positions crew unborn parked]

theorem Chore.census (crew : Crew plan s) (chore : Chore plan s t) {f : Position → Nat}
    (unborn : f .taking = f .unborn) (parked : f .taking = f .parked) :
    census f t.positions = census f s.positions :=
  congrArg List.sum (chore.map_positions crew unborn parked)

theorem Chore.board (chore : Chore plan s t) :
    t.toBoard = s.toBoard ∨ t.toBoard = { s.toBoard with backlog := s.backlog.close } := by
  cases chore with
  | duty done =>
    cases done with
    | closes => exact .inr (by simp)
    | _ => exact .inl (by simp)
  | stray woken => cases woken <;> exact .inl (by simp)

theorem Chore.lists (chore : Chore plan s t) :
    t.started = s.started ∧ t.completed = s.completed := by
  rcases chore.board with same | closed
  · simp [same]
  · simp [closed]

theorem Chore.latch (chore : Chore plan s t) : t.latch = s.latch := by
  rcases chore.board with same | closed
  · rw [same]
  · rw [closed]

theorem Chore.tally (chore : Chore plan s t) : t.tally = s.tally := by
  rcases chore.board with same | closed
  · rw [same]
  · rw [closed]

end

end Pool

end Precedence

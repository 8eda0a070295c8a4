import Mathlib.Data.List.Induction
import Precedence.JobSet
/-!
# What the order of a journal tells

The entries of a journal are numbered by their places (`Counted`), so the first entry of a kind has
the smallest number of all of them (`Counted.firstNumber_eq_some_iff`), and a comparison of two
numbers is one of two places (`Counted.finishedBeforeStart_iff`). Nothing else but what was told
makes a journal (`Counted.eq_ofTold`).
-/

namespace Precedence.Journal

/-- The entries are numbered from zero on, in their order. -/
def Counted (j : Journal) : Prop := j.entries.map (·.number) = List.range j.entries.length

/-- The entry at some place tells this of a job. -/
def Shows (j : Journal) (place : Nat) (mark : Mark) (job : JobId) : Prop :=
  ∃ entry, j.entries[place]? = some entry ∧ entry.mark = mark ∧ entry.job = job

/-- The journal of what was told in this order. -/
def ofTold (told : List (Mark × JobId)) : Journal :=
  told.foldl (fun j fact => j.record fact.1 fact.2) {}

variable {j : Journal} {mark : Mark} {job before after : JobId} {place : Nat} {entry : Entry}

theorem counted_new : Counted {} := rfl

/-- An entry with the next number comes last. -/
theorem Counted.concat (h : j.Counted) (number : entry.number = j.entries.length) (next : Nat) :
    Counted ⟨next, j.entries ++ [entry]⟩ := by
  unfold Counted at h ⊢
  simp only [List.map_append, List.map_singleton, List.length_append, List.length_singleton,
    List.range_succ, h, number]

theorem Counted.number_eq (h : j.Counted) (there : j.entries[place]? = some entry) :
    entry.number = place := by
  have bound := (List.getElem?_eq_some_iff.mp there).1
  have same := congrArg (·[place]?) h
  simpa [there, List.getElem?_range bound] using same

/-- The number of the first entry of its kind is the first place at which the journal shows it. -/
theorem Counted.firstNumber_eq_some_iff (h : j.Counted) :
    j.firstNumber mark job = some place ↔
      j.Shows place mark job ∧ ∀ other, j.Shows other mark job → place ≤ other := by
  rw [Journal.firstNumber, Option.map_eq_some_iff]
  constructor
  · rintro ⟨entry, found, rfl⟩
    obtain ⟨kind, i, bound, rfl, earlier⟩ := List.find?_eq_some_iff_getElem.mp found
    have there : j.entries[i]? = some j.entries[i] := List.getElem?_eq_getElem bound
    rw [h.number_eq there]
    refine ⟨⟨_, there, of_decide_eq_true kind⟩, ?_⟩
    rintro other ⟨entry, shown, kind'⟩
    by_contra less
    obtain ⟨bound', rfl⟩ := List.getElem?_eq_some_iff.mp shown
    have apart := earlier other (Nat.not_le.mp less)
    simp [kind'] at apart
  · rintro ⟨⟨entry, there, kind⟩, first⟩
    obtain ⟨bound, rfl⟩ := List.getElem?_eq_some_iff.mp there
    refine ⟨_, List.find?_eq_some_iff_getElem.mpr ⟨by simpa using kind, place, bound, rfl, ?_⟩,
      h.number_eq there⟩
    intro other less
    have bound' := Nat.lt_trans less bound
    simp only [Bool.not_eq_true', decide_eq_false_iff_not]
    intro kind'
    have later := first other ⟨_, List.getElem?_eq_getElem bound', kind'⟩
    omega

theorem firstNumber_isSome_iff :
    (j.firstNumber mark job).isSome = true ↔ ∃ place, j.Shows place mark job := by
  rw [Journal.firstNumber, Option.isSome_map, List.find?_isSome]
  constructor
  · rintro ⟨entry, member, kind⟩
    obtain ⟨place, there⟩ := List.getElem?_of_mem member
    exact ⟨place, entry, there, of_decide_eq_true kind⟩
  · rintro ⟨place, entry, there, kind⟩
    exact ⟨entry, List.mem_of_getElem? there, decide_eq_true kind⟩

/-- One job finished before another started, says the journal, if and only if both did, and some
entry that the first finished stands in front of all entries that the second started. -/
theorem Counted.finishedBeforeStart_iff (h : j.Counted) :
    j.finishedBeforeStart before after = true ↔
      (∃ place, j.Shows place .started after) ∧
        ∃ place, j.Shows place .finished before ∧
          ∀ other, j.Shows other .started after → place < other := by
  rw [Journal.finishedBeforeStart]
  constructor
  · intro sooner
    split at sooner
    · rename_i finish start finished started
      obtain ⟨shown, -⟩ := h.firstNumber_eq_some_iff.mp finished
      obtain ⟨shown', first⟩ := h.firstNumber_eq_some_iff.mp started
      have less := of_decide_eq_true sooner
      exact ⟨⟨start, shown'⟩, finish, shown, fun other begins =>
        Nat.lt_of_lt_of_le less (first other begins)⟩
    · exact absurd sooner Bool.false_ne_true
  · rintro ⟨starts, place, finishes, sooner⟩
    obtain ⟨start, started⟩ := Option.isSome_iff_exists.mp (firstNumber_isSome_iff.mpr starts)
    obtain ⟨finish, finished⟩ :=
      Option.isSome_iff_exists.mp (firstNumber_isSome_iff.mpr ⟨place, finishes⟩)
    obtain ⟨shown, -⟩ := h.firstNumber_eq_some_iff.mp started
    obtain ⟨-, first⟩ := h.firstNumber_eq_some_iff.mp finished
    simp only [finished, started, decide_eq_true_eq]
    exact Nat.lt_of_le_of_lt (first place finishes) (sooner start shown)

theorem ofTold_concat (told : List (Mark × JobId)) (fact : Mark × JobId) :
    ofTold (told ++ [fact]) = (ofTold told).record fact.1 fact.2 := by
  rw [ofTold, List.foldl_append]
  rfl

/-- A journal holds what it was told, and nothing else. -/
theorem Counted.eq_ofTold (h : j.Counted) (next : j.next = j.entries.length) :
    j = ofTold (j.entries.map fun entry => (entry.mark, entry.job)) := by
  obtain ⟨number, entries⟩ := j
  obtain rfl : number = entries.length := next
  induction entries using List.reverseRecOn with
  | nil => rfl
  | append_singleton front last ih =>
    have split : front.map (·.number) ++ [last.number] =
        List.range front.length ++ [front.length] := by
      simpa [Counted, List.range_succ] using h
    obtain ⟨earlier, number⟩ := List.append_inj split (by simp)
    rw [List.map_append, List.map_singleton, ofTold_concat, ← ih earlier, Journal.record]
    simp [← List.singleton_inj.mp number]

end Precedence.Journal

import Mathlib.Data.List.Nodup
import Precedence.Job
/-!
# Lists without repetitions

`distinct` keeps the first occurrence of every element. That makes it the only list with the same
elements in the order in which they first occur (`FirstOccurrences.eq_distinct`), and it goes well
with appending, filtering and mapping. `repeats` begins with the first element that has occurred
before (`head?_repeats`).
-/

namespace Precedence

section
variable {α β : Type} [DecidableEq α] [DecidableEq β]

theorem nodup_distinct (l : List α) : (distinct l).Nodup := by
  induction l with
  | nil => simp [distinct]
  | cons a rest ih => simpa [distinct] using ih.filter _

theorem distinct_of_nodup {l : List α} (once : l.Nodup) : distinct l = l := by
  induction l with
  | nil => rfl
  | cons a rest ih =>
    obtain ⟨absent, once⟩ := List.nodup_cons.mp once
    rw [distinct, ih once]
    congr 1
    exact List.filter_eq_self.mpr fun b member => decide_eq_true fun same => absent (same ▸ member)

theorem distinct_filter (l : List α) (p : α → Bool) :
    (distinct l).filter p = distinct (l.filter p) := by
  induction l with
  | nil => rfl
  | cons a rest ih =>
    by_cases kept : p a
    · simp only [distinct, List.filter_cons_of_pos kept, ← ih, List.filter_filter, Bool.and_comm]
    · have apart : (distinct rest).filter (fun x => p x && decide (x ≠ a)) =
          (distinct rest).filter p := by
        refine List.filter_congr fun x _ => ?_
        by_cases same : x = a <;> simp [same, kept]
      simp only [distinct, List.filter_cons_of_neg kept, List.filter_filter, apart, ih]

theorem distinct_map {f : α → β} {l : List α} (h : ∀ x ∈ l, ∀ y ∈ l, f x = f y → x = y) :
    (distinct l).map f = distinct (l.map f) := by
  induction l with
  | nil => rfl
  | cons a rest ih =>
    have later := ih fun x hx y hy =>
      h x (List.mem_cons_of_mem a hx) y (List.mem_cons_of_mem a hy)
    have apart : (distinct rest).filter (f · ≠ f a) = (distinct rest).filter (· ≠ a) := by
      refine List.filter_congr fun x member => ?_
      have inside := List.mem_cons_of_mem a (mem_distinct.mp member)
      simp only [ne_eq, decide_not, Bool.not_eq_eq_eq_not, Bool.not_not, decide_eq_decide]
      exact ⟨h x inside a List.mem_cons_self, fun same => congrArg f same⟩
    simp only [distinct, List.map_cons, ← later, List.filter_map, Function.comp_def, apart]

theorem distinct_replicate_append {a : α} {l : List α} (absent : a ∉ l) (n : Nat) :
    distinct (List.replicate n a ++ l) = if n = 0 then distinct l else a :: distinct l := by
  have apart : (distinct l).filter (· ≠ a) = distinct l := by
    refine List.filter_eq_self.mpr fun x member => decide_eq_true fun same => absent ?_
    exact same ▸ mem_distinct.mp member
  induction n with
  | zero => rfl
  | succ n ih =>
    rw [List.replicate_succ, List.cons_append, distinct, ih]
    by_cases first : n = 0
    · rw [if_pos first, if_neg n.succ_ne_zero, apart]
    · rw [if_neg first, if_neg n.succ_ne_zero, List.filter_cons_of_neg (by simp), apart]

/-- An element at the end counts if it has not occurred before. -/
theorem distinct_concat (l : List α) (a : α) :
    distinct (l ++ [a]) = if a ∈ l then distinct l else distinct l ++ [a] := by
  induction l with
  | nil => rfl
  | cons b rest ih =>
    rw [List.cons_append, distinct, ih, distinct]
    by_cases same : a = b
    · subst same
      by_cases inside : a ∈ rest <;> simp [inside]
    · by_cases inside : a ∈ rest <;> simp [inside, same]

/-! ## The order of first occurrences -/

theorem idxOf_lt_of_split {before after : List α} {a b : α}
    (inside : a ∈ before) (first : b ∉ before) :
    (before ++ b :: after).idxOf a < (before ++ b :: after).idxOf b := by
  rw [List.idxOf_append_of_mem inside, List.idxOf_append_of_notMem first, List.idxOf_cons_self]
  exact List.idxOf_lt_length_iff.mpr inside

/-- One list has the elements of another, each once and in the order in which they first occur. -/
structure FirstOccurrences (once l : List α) : Prop where
  mem_iff : ∀ a, a ∈ once ↔ a ∈ l
  ordered : once.Pairwise fun a b => l.idxOf a < l.idxOf b

theorem FirstOccurrences.nodup {once l : List α} (h : FirstOccurrences once l) : once.Nodup := by
  refine h.ordered.imp ?_
  rintro a b before rfl
  exact Nat.lt_irrefl _ before

theorem firstOccurrences_distinct (l : List α) : FirstOccurrences (distinct l) l := by
  refine ⟨fun _ => mem_distinct, ?_⟩
  induction l with
  | nil => exact .nil
  | cons a rest ih =>
    have later {b : α} (member : b ∈ (distinct rest).filter (· ≠ a)) :
        (a :: rest).idxOf b = rest.idxOf b + 1 := by
      have differ := of_decide_eq_true (List.mem_filter.mp member).2
      exact List.idxOf_cons_ne _ differ.symm
    refine List.pairwise_cons.mpr ⟨fun b member => ?_, ?_⟩
    · rw [List.idxOf_cons_self, later member]
      exact Nat.succ_pos _
    · refine (ih.filter _).imp_of_mem fun {b c} hb hc before => ?_
      rw [later hb, later hc]
      exact Nat.succ_lt_succ before

theorem FirstOccurrences.eq_distinct {once l : List α} (h : FirstOccurrences once l) :
    once = distinct l := by
  have perm : once.Perm (distinct l) := by
    refine (List.perm_ext_iff_of_nodup h.nodup (nodup_distinct l)).mpr fun a => ?_
    exact (h.mem_iff a).trans mem_distinct.symm
  refine perm.eq_of_pairwise (fun a b _ _ before after => ?_) h.ordered
    (firstOccurrences_distinct l).ordered
  exact absurd before (Nat.lt_asymm after)

/-- A list without repetitions has its elements in the order of their places. -/
theorem pairwise_idxOf {l : List α} (once : l.Nodup) :
    l.Pairwise fun a b => l.idxOf a < l.idxOf b := by
  simpa [distinct_of_nodup once] using (firstOccurrences_distinct l).ordered

theorem of_idxOf_lt {R : α → α → Prop} {l : List α} (ordered : l.Pairwise R) {a b : α}
    (member : b ∈ l) (before : l.idxOf a < l.idxOf b) : R a b := by
  have inside := List.idxOf_lt_length_iff.mpr member
  have inside' := Nat.lt_trans before inside
  have related := List.pairwise_iff_getElem.mp ordered _ _ inside' inside before
  rwa [List.getElem_idxOf, List.getElem_idxOf] at related

/-! ## Repetitions -/

theorem repeats_eq_nil {earlier l : List α} :
    repeats earlier l = [] ↔ l.Nodup ∧ ∀ a ∈ l, a ∉ earlier := by
  induction l generalizing earlier with
  | nil => simp [repeats]
  | cons a rest ih =>
    by_cases seen : a ∈ earlier
    · simp [repeats, seen]
    · simp only [repeats, seen, if_false, ih, List.nodup_cons, List.mem_cons, not_or,
        forall_eq_or_imp, not_false_eq_true, true_and]
      constructor
      · rintro ⟨nodup, apart⟩
        exact ⟨⟨fun member => (apart a member).1 rfl, nodup⟩, fun b hb => (apart b hb).2⟩
      · rintro ⟨⟨absent, nodup⟩, apart⟩
        exact ⟨nodup, fun b hb => ⟨fun same => absent (same ▸ hb), apart b hb⟩⟩

/-- The first repetition stands where nothing before it is one. -/
theorem head?_repeats {earlier l : List α} {a : α} : (repeats earlier l).head? = some a ↔
    ∃ before after, l = before ++ a :: after ∧ before.Nodup ∧
      (∀ b ∈ before, b ∉ earlier) ∧ (a ∈ earlier ∨ a ∈ before) := by
  induction l generalizing earlier with
  | nil => simp [repeats]
  | cons b rest ih =>
    by_cases seen : b ∈ earlier
    · rw [repeats, if_pos seen, List.head?_cons]
      constructor
      · intro same
        obtain rfl := Option.some.inj same
        exact ⟨[], rest, rfl, List.nodup_nil, by simp, .inl seen⟩
      · rintro ⟨before, after, split, -, apart, -⟩
        cases before with
        | nil => exact congrArg some (List.cons.inj split).1
        | cons c before =>
          obtain ⟨rfl, -⟩ := List.cons.inj split
          exact absurd seen (apart b List.mem_cons_self)
    · rw [repeats, if_neg seen, ih]
      constructor
      · rintro ⟨before, after, rfl, once, apart, again⟩
        refine ⟨b :: before, after, rfl, ?_, ?_, ?_⟩
        · exact List.nodup_cons.mpr ⟨fun member => apart b member List.mem_cons_self, once⟩
        · intro c member
          rcases List.mem_cons.mp member with rfl | inside
          · exact seen
          · exact fun old => apart c inside (List.mem_cons_of_mem b old)
        · grind
      · rintro ⟨before, after, split, once, apart, again⟩
        cases before with
        | nil =>
          obtain ⟨rfl, -⟩ := List.cons.inj split
          simp [seen] at again
        | cons c before =>
          obtain ⟨rfl, rfl⟩ := List.cons.inj split
          obtain ⟨absent, once⟩ := List.nodup_cons.mp once
          exact ⟨before, after, rfl, once, by grind, by grind⟩

end

end Precedence

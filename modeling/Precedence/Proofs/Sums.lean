import Mathlib.Algebra.GroupWithZero.Nat

namespace Precedence

section
variable {α : Type} {l : List α} {i : Nat} {a : α}

/-- What stands at a place after one element was replaced is the new element or stood there
before. -/
theorem of_getElem?_set {b : α} {j : Nat} (at_ : (l.set i b)[j]? = some a) :
    j = i ∧ a = b ∨ j ≠ i ∧ l[j]? = some a := by
  rw [List.getElem?_set] at at_
  by_cases here : i = j
  · rw [if_pos here] at at_
    split at at_
    · exact .inl ⟨here.symm, (Option.some.inj at_).symm⟩
    · simp at at_
  · rw [if_neg here] at at_
    exact .inr ⟨Ne.symm here, at_⟩

/-- When one element of a list is replaced, a sum over the list changes by the difference. -/
theorem sum_map_set (at_ : l[i]? = some a) (b : α) (f : α → Nat) :
    ((l.set i b).map f).sum + f a = (l.map f).sum + f b := by
  induction l generalizing i with
  | nil => simp at at_
  | cons first rest ih =>
    cases i with
    | zero =>
      simp only [List.getElem?_cons_zero, Option.some.injEq] at at_
      subst at_
      simp only [List.set_cons_zero, List.map_cons, List.sum_cons]
      omega
    | succ i =>
      have := ih (by simpa using at_)
      simp only [List.set_cons_succ, List.map_cons, List.sum_cons] at this ⊢
      omega

theorem sum_map_le_add_length {f g : α → Nat} (bound : ∀ a, g a ≤ f a + 1) :
    (l.map g).sum ≤ (l.map f).sum + l.length := by
  induction l with
  | nil => simp
  | cons a rest ih =>
    have one := bound a
    simp only [List.map_cons, List.sum_cons, List.length_cons]
    omega

end

/-- A sum is at least what the values at some places of the list come to. -/
theorem mul_length_le_sum {w : Nat} {places values : List Nat} (once : places.Nodup)
    (enough : ∀ i ∈ places, ∃ v, values[i]? = some v ∧ w ≤ v) :
    w * places.length ≤ values.sum := by
  induction places generalizing values with
  | nil => simp
  | cons i rest ih =>
    obtain ⟨absent, once⟩ := List.nodup_cons.mp once
    obtain ⟨v, there, high⟩ := enough i List.mem_cons_self
    -- the others are worth as much without the value at the first place
    have others : w * rest.length ≤ (values.set i 0).sum := by
      refine ih once fun j member => ?_
      have differ : i ≠ j := by
        rintro rfl
        exact absent member
      rw [List.getElem?_set_ne differ]
      exact enough j (List.mem_cons_of_mem i member)
    have moved := sum_map_set there 0 id
    simp only [List.map_id, id] at moved
    rw [List.length_cons, Nat.mul_succ]
    omega

/-- A sum of ones and zeros is at most the number of places outside of which there are zeros. -/
theorem sum_le_length {places values : List Nat}
    (few : ∀ {i v : Nat}, values[i]? = some v → v ≤ 1)
    (only : ∀ {i v : Nat}, values[i]? = some v → i ∉ places → v = 0) :
    values.sum ≤ places.length := by
  induction places generalizing values with
  | nil =>
    refine Nat.le_of_eq (List.sum_eq_zero_iff_forall_eq_nat.mpr fun v member => ?_)
    obtain ⟨i, there⟩ := List.getElem?_of_mem member
    exact only there List.not_mem_nil
  | cons i rest ih =>
    cases there : values[i]? with
    | none =>
      refine Nat.le_succ_of_le (ih few fun {j v} at_ absent => only at_ ?_)
      rw [List.mem_cons, not_or]
      refine ⟨?_, absent⟩
      rintro rfl
      simp [there] at at_
    | some v =>
      have one := few there
      -- without the value at the first place, only the others are left
      have others : (values.set i 0).sum ≤ rest.length := by
        refine ih (fun {j w} at_ => ?_) fun {j w} at_ absent => ?_
        · obtain ⟨-, rfl⟩ | ⟨-, before⟩ := of_getElem?_set at_
          · exact Nat.zero_le 1
          · exact few before
        · obtain ⟨-, rfl⟩ | ⟨differ, before⟩ := of_getElem?_set at_
          · rfl
          · refine only before ?_
            rw [List.mem_cons, not_or]
            exact ⟨differ, absent⟩
      have moved := sum_map_set there 0 id
      simp only [List.map_id, id] at moved
      rw [List.length_cons]
      omega

end Precedence

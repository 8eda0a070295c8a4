import Mathlib.Data.List.Nodup
import Mathlib.Logic.Relation
import Precedence.Search
/-!
# What the depth-first searches find

`finish` finishes every node of its stack (`mem_finish_of_stack`). A search with `visit` that finds
nothing has left its stack and its fresh nodes apart (`visit_eq_nil`), so one that starts from a
single node and finds nothing else has no fresh successor of that node (`visit_singleton`).

`visit` discovers what can be reached from its stack over fresh nodes and nothing else
(`mem_visit_of_stack`, `mem_visit_of_next`, `visit_sound`), each node once (`visit_perm`). `finish`
puts every node before its successors, except for those from which a path leads back to the node
(`returning_finish`): the nodes that were discovered and are not finished lie on the stack above
everything that led to them, whatever else the stack holds a second time (`Midway`). Without cycles
there is no such exception (`forward_finish`).
-/

namespace Precedence.Search

variable {α : Type} [DecidableEq α]

theorem mem_finish_of_finished (next : α → List α) (fresh finished stack : List α) {a : α}
    (h : a ∈ finished) : a ∈ finish next fresh finished stack := by
  fun_induction finish next fresh finished stack with
  | case1 => exact h
  | case2 _ _ _ _ _ _ ih => exact ih h
  | case3 _ _ _ _ _ _ ih => exact ih h
  | case4 _ _ _ _ _ _ ih => exact ih (List.mem_cons_of_mem _ h)

theorem mem_finish_of_stack (next : α → List α) (fresh finished stack : List α) {a : α}
    (h : a ∈ stack) : a ∈ finish next fresh finished stack := by
  fun_induction finish next fresh finished stack with
  | case1 => simp at h
  | case2 fresh finished node stack member later ih => exact ih (List.mem_append_right _ h)
  | case3 fresh finished node stack absent member ih =>
    rcases List.mem_cons.mp h with rfl | inside
    · exact mem_finish_of_finished next fresh _ _ member
    · exact ih inside
  | case4 fresh finished node stack absent pending ih =>
    rcases List.mem_cons.mp h with rfl | inside
    · exact mem_finish_of_finished next fresh _ _ List.mem_cons_self
    · exact ih inside

theorem visit_eq_nil (next : α → List α) (fresh stack : List α)
    (h : (visit next fresh stack).1 = []) :
    (∀ node ∈ stack, node ∉ fresh) ∧ (visit next fresh stack).2 = fresh := by
  fun_induction visit next fresh stack with
  | case1 => simp
  | case2 => simp at h
  | case3 fresh node stack absent ih =>
    obtain ⟨apart, same⟩ := ih h
    refine ⟨?_, same⟩
    intro other member
    rcases List.mem_cons.mp member with rfl | inside
    · exact absent
    · exact apart other inside

/-- A search from one node that finds no second one: the successors of a fresh start are not
fresh, and only the start has been used up. -/
theorem visit_singleton (next : α → List α) (fresh : List α) (start : α)
    (h : (visit next fresh [start]).1.tail = []) :
    (start ∈ fresh → ∀ node ∈ next start, node ∉ fresh.erase start) ∧
      (visit next fresh [start]).2 = fresh.erase start := by
  rw [visit] at h ⊢
  by_cases member : start ∈ fresh
  · simp only [member, ↓reduceIte, List.append_nil, List.tail_cons] at h ⊢
    obtain ⟨apart, rest⟩ := visit_eq_nil _ _ _ h
    refine ⟨fun _ node successor inside => ?_, rest⟩
    exact apart node (by simpa using ⟨successor, inside⟩) inside
  · simp [member, visit, List.erase_of_not_mem]

/-- What a search finds first lies on its stack. -/
theorem mem_of_visit_eq_cons (next : α → List α) (fresh stack : List α) {a : α}
    {found rest : List α} (h : visit next fresh stack = (a :: found, rest)) :
    a ∈ stack ∧ a ∈ fresh := by
  fun_induction visit next fresh stack with
  | case1 => simp at h
  | case2 fresh node stack member later more left same ih =>
    obtain ⟨rfl, -⟩ := List.cons.inj (Prod.mk.inj h).1
    exact ⟨List.mem_cons_self, member⟩
  | case3 fresh node stack absent ih =>
    obtain ⟨waits, new⟩ := ih h
    exact ⟨List.mem_cons_of_mem node waits, new⟩

/-- What is not fresh is passed over. -/
theorem visit_append (next : α → List α) {fresh passed stack : List α}
    (known : ∀ a ∈ passed, a ∉ fresh) :
    visit next fresh (passed ++ stack) = visit next fresh stack := by
  induction passed with
  | nil => rfl
  | cons a passed ih =>
    rw [List.cons_append, visit, if_neg (known a List.mem_cons_self)]
    exact ih fun b later => known b (List.mem_cons_of_mem a later)

/-- What a search from one node finds next is a successor of that node. -/
theorem mem_next_of_visit (next : α → List α) (fresh : List α) {start first second : α}
    {found rest : List α} (h : visit next fresh [start] = (first :: second :: found, rest)) :
    second ∈ next start ∧ second ∈ fresh.erase start := by
  rw [visit] at h
  by_cases new : start ∈ fresh
  · rw [if_pos new] at h
    obtain ⟨same, -⟩ := Prod.mk.inj h
    obtain ⟨-, tail⟩ := List.cons.inj same
    obtain ⟨waits, left⟩ := mem_of_visit_eq_cons next _ _ (Prod.ext tail rfl)
    exact ⟨by simpa [left] using waits, left⟩
  · rw [if_neg new, visit] at h
    simp at h

/-! ## Discovery -/

/-- A search divides the fresh nodes into those it finds and those it leaves. -/
theorem visit_perm (next : α → List α) (fresh stack : List α) :
    ((visit next fresh stack).1 ++ (visit next fresh stack).2).Perm fresh := by
  fun_induction visit next fresh stack with
  | case1 => simp
  | case2 fresh node stack member later found rest same ih =>
    rw [same] at ih
    exact (List.Perm.cons node ih).trans (List.perm_cons_erase member).symm
  | case3 _ _ _ _ ih => exact ih

theorem nodup_visit (next : α → List α) {fresh : List α} (distinct : fresh.Nodup)
    (stack : List α) : (visit next fresh stack).1.Nodup :=
  (List.nodup_append'.mp ((visit_perm next fresh stack).nodup_iff.mpr distinct)).1

theorem mem_visit_of_stack (next : α → List α) (fresh stack : List α) {a : α}
    (waits : a ∈ stack) (new : a ∈ fresh) : a ∈ (visit next fresh stack).1 := by
  fun_induction visit next fresh stack with
  | case1 => simp at waits
  | case2 fresh node stack member later found rest same ih =>
    rw [same] at ih
    by_cases here : a = node
    · exact here ▸ List.mem_cons_self
    · have below : a ∈ stack := (List.mem_cons.mp waits).resolve_left here
      have left : a ∈ later := (List.mem_erase_of_ne here).mpr new
      exact List.mem_cons_of_mem _ (ih (List.mem_append_right _ below) left)
  | case3 fresh node stack absent ih =>
    have below : a ∈ stack := (List.mem_cons.mp waits).resolve_left fun here => absent (here ▸ new)
    exact ih below new

/-- The fresh successors of what a search finds are found as well. -/
theorem mem_visit_of_next (next : α → List α) (fresh stack : List α) {a b : α}
    (found : a ∈ (visit next fresh stack).1) (successor : b ∈ next a) (new : b ∈ fresh) :
    b ∈ (visit next fresh stack).1 := by
  fun_induction visit next fresh stack with
  | case1 => simp at found
  | case2 fresh node stack member later more rest same ih =>
    by_cases here : b = node
    · exact here ▸ List.mem_cons_self
    · have left : b ∈ later := (List.mem_erase_of_ne here).mpr new
      refine List.mem_cons_of_mem _ ?_
      rcases List.mem_cons.mp found with rfl | inside
      · have waits : b ∈ ((next a).filter (· ∈ later)).reverse ++ stack := by
          simp [successor, left]
        have := mem_visit_of_stack next later _ waits left
        rwa [same] at this
      · rw [same] at ih
        exact ih inside left
  | case3 _ _ _ _ ih => exact ih found new

/-- What holds of the stack and passes on to successors holds of all that a search finds. -/
theorem visit_sound {P : α → Prop} {next : α → List α} (step : ∀ a, P a → ∀ b ∈ next a, P b)
    (fresh stack : List α) (start : ∀ a ∈ stack, P a) :
    ∀ a ∈ (visit next fresh stack).1, P a := by
  fun_induction visit next fresh stack with
  | case1 => simp
  | case2 fresh node stack member later found rest same ih =>
    rw [same] at ih
    have here : P node := start node List.mem_cons_self
    have pushed : ∀ a ∈ ((next node).filter (· ∈ later)).reverse ++ stack, P a := by
      intro a waits
      rcases List.mem_append.mp waits with successor | below
      · exact step node here a (List.mem_filter.mp (List.mem_reverse.mp successor)).1
      · exact start a (List.mem_cons_of_mem _ below)
    intro a inside
    rcases List.mem_cons.mp inside with rfl | later
    · exact here
    · exact ih pushed a later
  | case3 fresh node stack absent ih => exact ih fun a below => start a (List.mem_cons_of_mem _ below)

/-- A search from one node finds that node, if it is fresh, and no other when its successors are
not fresh. -/
theorem visit_start (next : α → List α) {fresh : List α} {start : α} (new : start ∈ fresh)
    (apart : ∀ node ∈ next start, node ∉ fresh.erase start) :
    visit next fresh [start] = ([start], fresh.erase start) := by
  have none : (next start).filter (· ∈ fresh.erase start) = [] := by
    simpa [List.filter_eq_nil_iff] using apart
  rw [visit, if_pos new]
  simp [none, visit]

/-! ## Finishing -/

theorem mem_of_mem_finish (next : α → List α) (fresh finished stack : List α) {a : α}
    (h : a ∈ finish next fresh finished stack) : a ∈ finished ∨ a ∈ stack ∨ a ∈ fresh := by
  fun_induction finish next fresh finished stack with
  | case1 => exact .inl h
  | case2 fresh finished node stack member later ih =>
    have left : ∀ b ∈ later, b ∈ fresh := fun b => List.mem_of_mem_erase
    rcases ih h with done | waits | new
    · exact .inl done
    · rcases List.mem_append.mp waits with pushed | below
      · have successor := List.mem_filter.mp (List.mem_reverse.mp pushed)
        exact .inr (.inr (left a (by simpa using successor.2)))
      · exact .inr (.inl below)
    · exact .inr (.inr (left a new))
  | case3 fresh finished node stack absent member ih =>
    exact (ih h).imp_right (Or.imp_left (List.mem_cons_of_mem node))
  | case4 fresh finished node stack absent pending ih =>
    rcases ih h with done | waits | new
    · rcases List.mem_cons.mp done with rfl | before
      · exact .inr (.inl List.mem_cons_self)
      · exact .inl before
    · exact .inr (.inl (List.mem_cons_of_mem node waits))
    · exact .inr (.inr new)

theorem nodup_finish (next : α → List α) (fresh : List α) {finished : List α}
    (distinct : finished.Nodup) (stack : List α) : (finish next fresh finished stack).Nodup := by
  fun_induction finish next fresh finished stack with
  | case1 => exact distinct
  | case2 _ _ _ _ _ _ ih => exact ih distinct
  | case3 _ _ _ _ _ _ ih => exact ih distinct
  | case4 _ _ _ _ _ pending ih => exact ih (List.nodup_cons.mpr ⟨pending, distinct⟩)

/-- Every node of a list stands before its successors. -/
def Forward (next : α → List α) (l : List α) : Prop :=
  ∀ before node after, l = before ++ node :: after → ∀ u ∈ next node, u ∈ after

omit [DecidableEq α] in
/-- In a list without repetitions, what has a given successor stands before it. -/
theorem Forward.mem_before {next : α → List α} {earlier later : List α} {v u : α}
    (h : Forward next (earlier ++ v :: later)) (once : (earlier ++ v :: later).Nodup)
    (placed : u ∈ earlier ++ v :: later) (successor : v ∈ next u) : u ∈ earlier := by
  refine (List.mem_append.mp placed).resolve_right fun behind => ?_
  obtain ⟨middle, after, split⟩ := List.append_of_mem behind
  have again : v ∈ after := by
    refine h (earlier ++ middle) u after ?_ v successor
    rw [split, List.append_assoc]
  have rest : after <:+ later := by
    have last : u :: after <:+ v :: later := ⟨middle, split.symm⟩
    rcases List.suffix_cons_iff.mp last with same | lower
    · obtain ⟨-, rfl⟩ := List.cons.inj same
      exact List.suffix_rfl
    · exact (List.suffix_cons u after).trans lower
  have single := (List.nodup_append'.mp once).2.1
  exact (List.nodup_cons.mp single).1 (rest.subset again)

/-- One node can be reached from another over one or more edges. -/
abbrev Leads (next : α → List α) : α → α → Prop := Relation.TransGen fun a b => b ∈ next a

/-- Every node of a list stands before its successors, except for those that lead back to it. -/
def Returning (next : α → List α) (l : List α) : Prop :=
  ∀ before node after, l = before ++ node :: after →
    ∀ u ∈ next node, u ∈ after ∨ Leads next u node

omit [DecidableEq α] in
theorem Returning.cons {next : α → List α} {l : List α} (h : Returning next l) {node : α}
    (all : ∀ u ∈ next node, u ∈ l ∨ Leads next u node) : Returning next (node :: l) := by
  intro before other after split u successor
  cases before with
  | nil =>
    obtain ⟨rfl, rfl⟩ := List.cons.inj split
    exact all u successor
  | cons first before => exact h before other after (List.cons.inj split).2 u successor

omit [DecidableEq α] in
theorem Returning.forward {next : α → List α} {l : List α} (h : Returning next l)
    (acyclic : ∀ a, ¬ Leads next a a) : Forward next l := by
  intro before node after split u successor
  refine (h before node after split u successor).resolve_right fun back => ?_
  exact acyclic u (back.tail successor)

/-- The part of a stack above the topmost occurrence of a node. -/
def above (stack : List α) (node : α) : List α := stack.takeWhile (· ≠ node)

@[simp] theorem above_cons_self (stack : List α) (node : α) : above (node :: stack) node = [] := by
  simp [above]

theorem above_cons_of_ne {node other : α} (differ : other ≠ node) (stack : List α) :
    above (other :: stack) node = other :: above stack node := by
  simp [above, differ]

theorem above_append {upper : List α} {node : α} (absent : node ∉ upper) (lower : List α) :
    above (upper ++ lower) node = upper ++ above lower node := by
  refine List.takeWhile_append_of_pos fun a member => ?_
  simpa using fun same : a = node => absent (same ▸ member)

/-- What goes on the stack when a node is discovered: its successors among the fresh nodes. -/
def pushed (next : α → List α) (fresh : List α) (node : α) : List α :=
  ((next node).filter (· ∈ fresh)).reverse

theorem mem_pushed {next : α → List α} {fresh : List α} {node a : α} :
    a ∈ pushed next fresh node ↔ a ∈ next node ∧ a ∈ fresh := by
  simp [pushed]

/-- A node that is not fresh any more is not among those that are pushed. -/
theorem above_pushed {next : α → List α} {fresh : List α} {node a : α} (discovered : a ∉ fresh)
    (stack : List α) :
    above (pushed next fresh node ++ stack) a = pushed next fresh node ++ above stack a :=
  above_append (fun waits => discovered (mem_pushed.mp waits).2) stack

/-- A search in the middle of its work. Of a node that was discovered and is not finished, only the
topmost occurrence on the stack counts: all above it was put there on its behalf, and whatever it
still waits for is there, unless it leads back to the node. -/
structure Midway (next : α → List α) (nodes fresh finished stack : List α) : Prop where
  distinct : fresh.Nodup
  apart : ∀ a ∈ finished, a ∉ fresh
  returning : Returning next finished
  known : ∀ a ∈ nodes, a ∈ fresh ∨ a ∈ finished ∨ a ∈ stack
  led : ∀ a ∈ stack, a ∉ fresh → a ∉ finished → ∀ b ∈ above stack a, Leads next a b
  awaited : ∀ a ∈ stack, a ∉ fresh → a ∉ finished →
    ∀ u ∈ next a, u ∈ finished ∨ u ∈ above stack a ∨ Leads next u a

section
variable {next : α → List α} {nodes fresh finished stack : List α} {node : α}

theorem midway_start (distinct : nodes.Nodup) : Midway next nodes nodes [] nodes where
  distinct := distinct
  apart := by simp
  returning := by simp [Returning]
  known _ member := .inl member
  led _ member discovered := absurd member discovered
  awaited _ member discovered := absurd member discovered

/-- A successor of a node that is discovered now, if it was discovered before and is not finished,
lies further down on the stack: it leads back to the node. -/
theorem Midway.finished_or_leads (h : Midway next nodes fresh finished (node :: stack)) {u : α}
    (successor : u ∈ next node) (inside : u ∈ nodes) (discovered : u ∉ fresh) :
    u ∈ finished ∨ Leads next u node := by
  by_cases done : u ∈ finished
  · exact .inl done
  · refine .inr ?_
    by_cases same : u = node
    · subst same
      exact .single successor
    · have waits : u ∈ node :: stack :=
        ((h.known u inside).resolve_left discovered).resolve_left done
      refine h.led u waits discovered done node ?_
      rw [above_cons_of_ne (Ne.symm same)]
      exact List.mem_cons_self

/-- Whoever waits on the stack after a discovery, apart from the discovered node, was discovered
earlier and has waited before. -/
theorem waits_of_pushed {a : α} (differ : a ≠ node) (discovered : a ∉ fresh.erase node)
    (waits : a ∈ pushed next (fresh.erase node) node ++ node :: stack) :
    a ∈ node :: stack ∧ a ∉ fresh := by
  refine ⟨(List.mem_append.mp waits).resolve_left fun up => discovered (mem_pushed.mp up).2, ?_⟩
  exact fun member => discovered ((List.mem_erase_of_ne differ).mpr member)

theorem Midway.discover_led (h : Midway next nodes fresh finished (node :: stack)) {a : α}
    (waits : a ∈ pushed next (fresh.erase node) node ++ node :: stack)
    (discovered : a ∉ fresh.erase node) (pending : a ∉ finished) :
    ∀ b ∈ above (pushed next (fresh.erase node) node ++ node :: stack) a, Leads next a b := by
  intro b up
  rw [above_pushed discovered] at up
  by_cases same : a = node
  · subst same
    rw [above_cons_self, List.append_nil] at up
    exact .single (mem_pushed.mp up).1
  · obtain ⟨before, older⟩ := waits_of_pushed same discovered waits
    have toward := h.led a before older pending
    rcases List.mem_append.mp up with first | rest
    · have here : node ∈ above (node :: stack) a := by
        rw [above_cons_of_ne (Ne.symm same)]
        exact List.mem_cons_self
      exact (toward node here).tail (mem_pushed.mp first).1
    · exact toward b rest

theorem Midway.discover_awaited (h : Midway next nodes fresh finished (node :: stack))
    (inside : ∀ a, ∀ u ∈ next a, u ∈ nodes) {a : α}
    (waits : a ∈ pushed next (fresh.erase node) node ++ node :: stack)
    (discovered : a ∉ fresh.erase node) (pending : a ∉ finished) :
    ∀ u ∈ next a, u ∈ finished ∨
      u ∈ above (pushed next (fresh.erase node) node ++ node :: stack) a ∨ Leads next u a := by
  intro u successor
  rw [above_pushed discovered]
  by_cases same : a = node
  · subst same
    by_cases left : u ∈ fresh.erase a
    · exact .inr (.inl (List.mem_append_left _ (mem_pushed.mpr ⟨successor, left⟩)))
    · by_cases loop : u = a
      · subst loop
        exact .inr (.inr (.single successor))
      · have old : u ∉ fresh := fun new => left ((List.mem_erase_of_ne loop).mpr new)
        exact (h.finished_or_leads successor (inside a u successor) old).imp_right .inr
  · obtain ⟨before, older⟩ := waits_of_pushed same discovered waits
    rcases h.awaited a before older pending u successor with done | up | back
    · exact .inl done
    · exact .inr (.inl (List.mem_append_right _ up))
    · exact .inr (.inr back)

theorem Midway.discover (h : Midway next nodes fresh finished (node :: stack))
    (inside : ∀ a, ∀ u ∈ next a, u ∈ nodes) :
    Midway next nodes (fresh.erase node) finished
      (pushed next (fresh.erase node) node ++ node :: stack) where
  distinct := h.distinct.erase node
  apart a done member := h.apart a done (List.mem_of_mem_erase member)
  returning := h.returning
  known a member := by
    rcases h.known a member with fresh | done | waits
    · by_cases same : a = node
      · exact .inr (.inr (by simp [same]))
      · exact .inl ((List.mem_erase_of_ne same).mpr fresh)
    · exact .inr (.inl done)
    · exact .inr (.inr (List.mem_append_right _ waits))
  led _ waits discovered pending := h.discover_led waits discovered pending
  awaited _ waits discovered pending := h.discover_awaited inside waits discovered pending

/-- The topmost node may go once it is finished. -/
theorem Midway.pop (h : Midway next nodes fresh finished (node :: stack)) (done : node ∈ finished) :
    Midway next nodes fresh finished stack := by
  have other : ∀ {a : α}, a ∉ finished → node ≠ a := by
    rintro a pending rfl
    exact pending done
  refine ⟨h.distinct, h.apart, h.returning, ?_, ?_, ?_⟩
  · intro a member
    rcases h.known a member with fresh | done' | waits
    · exact .inl fresh
    · exact .inr (.inl done')
    · rcases List.mem_cons.mp waits with rfl | below
      · exact .inr (.inl done)
      · exact .inr (.inr below)
  · intro a waits discovered pending b up
    refine h.led a (List.mem_cons_of_mem _ waits) discovered pending b ?_
    rw [above_cons_of_ne (other pending)]
    exact List.mem_cons_of_mem _ up
  · intro a waits discovered pending u successor
    have before := h.awaited a (List.mem_cons_of_mem _ waits) discovered pending u successor
    rw [above_cons_of_ne (other pending)] at before
    rcases before with done' | up | back
    · exact .inl done'
    · rcases List.mem_cons.mp up with rfl | up
      · exact .inl done
      · exact .inr (.inl up)
    · exact .inr (.inr back)

/-- The topmost node is finished when it is on top for the second time: all that it waited for has
been finished above it. -/
theorem Midway.close (h : Midway next nodes fresh finished (node :: stack))
    (discovered : node ∉ fresh) (pending : node ∉ finished) :
    Midway next nodes fresh (node :: finished) (node :: stack) := by
  refine ⟨h.distinct, ?_, ?_, ?_, ?_, ?_⟩
  · intro a done
    rcases List.mem_cons.mp done with rfl | before
    · exact discovered
    · exact h.apart a before
  · refine h.returning.cons fun u successor => ?_
    have := h.awaited node List.mem_cons_self discovered pending u successor
    simpa using this
  · exact fun a member => (h.known a member).imp_right (Or.imp_left (List.mem_cons_of_mem _))
  · intro a waits discovered' pending'
    exact h.led a waits discovered' fun done => pending' (List.mem_cons_of_mem _ done)
  · intro a waits discovered' pending' u successor
    have := h.awaited a waits discovered' (fun done => pending' (List.mem_cons_of_mem _ done)) u
      successor
    exact this.imp_left (List.mem_cons_of_mem _)

/-- Every node is finished after its successors, and so stands before them, unless they lead back
to it. -/
theorem returning_finish (inside : ∀ a, ∀ u ∈ next a, u ∈ nodes)
    (h : Midway next nodes fresh finished stack) :
    Returning next (finish next fresh finished stack) := by
  fun_induction finish next fresh finished stack with
  | case1 => exact h.returning
  | case2 fresh finished node stack new later ih => exact ih (h.discover inside)
  | case3 fresh finished node stack discovered done ih => exact ih (h.pop done)
  | case4 fresh finished node stack discovered pending ih =>
    exact ih ((h.close discovered pending).pop List.mem_cons_self)

/-- Without cycles, every node stands before its successors. -/
theorem forward_finish (acyclic : ∀ a, ¬ Leads next a a) (inside : ∀ a, ∀ u ∈ next a, u ∈ nodes)
    (h : Midway next nodes fresh finished stack) :
    Forward next (finish next fresh finished stack) :=
  (returning_finish inside h).forward acyclic

end

end Precedence.Search

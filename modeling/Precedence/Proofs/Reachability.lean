import Precedence.Proofs.Acceptance
import Precedence.Proofs.Text.Bytes
/-!
# What lies at the far end of a path

Two searches look for the jobs that can be reached from a job. `Graph.downstream` goes over the
neighbours of a graph, marks a job when it is taken from the stack, and puts what it finds in order.
`reachableFrom` goes over a list of edges, which may make cycles, and marks a job when it is put on
the stack. Both find the jobs at the far end of a `Path` and nothing else
(`searches_find_ends_of_paths`): what they have seen is closed under edges once nothing waits on the
stack (`closed_spread`), and they see nothing to which no path leads (`path_of_mem_spread`).
-/

namespace Precedence

section
variable {edges : List Edge} {seen stack : List JobId} {root : JobId}

theorem nodup_spread (distinct : seen.Nodup) : (spread edges seen stack).Nodup := by
  fun_induction spread edges seen stack with
  | case1 => exact distinct
  | case2 seen job stack ih =>
    refine ih (List.nodup_append'.mpr ⟨distinct, nodup_distinct _, ?_⟩)
    exact fun v old new => (mem_unseen.mp new).2 old

/-- Whatever is seen lies at the end of a path, if the jobs on the stack do or are where it
starts. -/
theorem path_of_mem_spread (reached : ∀ v ∈ seen, Path edges root v)
    (waiting : ∀ u ∈ stack, u = root ∨ Path edges root u) :
    ∀ v ∈ spread edges seen stack, Path edges root v := by
  fun_induction spread edges seen stack with
  | case1 => exact reached
  | case2 seen job stack ih =>
    have next : ∀ v ∈ unseen edges seen job, Path edges root v := by
      intro v new
      have edge : ⟨job, v⟩ ∈ edges := mem_dependentsIn.mp (mem_unseen.mp new).1
      rcases waiting job List.mem_cons_self with rfl | path
      · exact .single edge
      · exact path.tail edge
    refine ih (fun v found => ?_) fun u waits => ?_
    · exact (List.mem_append.mp found).elim (reached v) (next v)
    · rcases List.mem_append.mp waits with new | below
      · exact .inr (next u (List.mem_reverse.mp new))
      · exact waiting u (List.mem_cons_of_mem job below)

/-- In the end everything is seen that an edge leads to from the root or from a job that was seen,
if before that every such job waited on the stack or had all of it seen. -/
theorem closed_spread (pending : ∀ u, u = root ∨ u ∈ seen →
      u ∈ stack ∨ ∀ v, ⟨u, v⟩ ∈ edges → v ∈ seen) :
    ∀ u, u = root ∨ u ∈ spread edges seen stack →
      ∀ v, ⟨u, v⟩ ∈ edges → v ∈ spread edges seen stack := by
  fun_induction spread edges seen stack with
  | case1 seen => exact fun u known => (pending u known).resolve_left List.not_mem_nil
  | case2 seen job stack ih =>
    refine ih fun u known => ?_
    have before : u = root ∨ u ∈ seen → u ∈ (unseen edges seen job).reverse ++ stack ∨
        ∀ v, ⟨u, v⟩ ∈ edges → v ∈ seen ++ unseen edges seen job := by
      intro old
      rcases pending u old with waits | done
      · rcases List.mem_cons.mp waits with rfl | below
        · -- its turn has come: what it leads to is seen by now
          refine .inr fun v edge => List.mem_append.mpr ?_
          by_cases already : v ∈ seen
          · exact .inl already
          · exact .inr (mem_unseen.mpr ⟨mem_dependentsIn.mpr edge, already⟩)
        · exact .inl (List.mem_append_right _ below)
      · exact .inr fun v edge => List.mem_append_left _ (done v edge)
    rcases known with same | known
    · exact before (.inl same)
    · rcases List.mem_append.mp known with old | new
      · exact before (.inr old)
      · exact .inl (List.mem_append_left _ (List.mem_reverse.mpr new))

/-- A list of edges leads to the jobs at the ends of its paths, whether it makes cycles or not. -/
theorem mem_reachableFrom {v : JobId} : v ∈ reachableFrom root edges ↔ Path edges root v := by
  constructor
  · exact path_of_mem_spread (by simp) (by simp) v
  · intro path
    have closed : ∀ u, u = root ∨ u ∈ reachableFrom root edges →
        ∀ v, ⟨u, v⟩ ∈ edges → v ∈ reachableFrom root edges := closed_spread (by simp)
    induction path with
    | single edge => exact closed root (.inl rfl) _ edge
    | tail _ edge ih => exact closed _ (.inr ih) _ edge

end

namespace Graph

/-- In an accepted graph the jobs downstream of a job are those that can be reached from it over one
or more edges, in the order of the bytes of their names. A job is never downstream of itself. Over
any list of edges, exactly the ends of the paths that start at a job are reachable from it, each
once, and so the job itself if it lies on a cycle. -/
theorem searches_find_ends_of_paths :
    (∀ jobs edges graph, build jobs edges = .ok graph → ∀ job,
      (∀ v, v ∈ graph.downstream job ↔ Path edges job v) ∧
      (graph.downstream job).Pairwise (fun a b =>
        Text.Utf8.encode a.name < Text.Utf8.encode b.name) ∧
      job ∉ graph.downstream job ∧
      ∀ v, v ∈ graph.downstream job ↔ v ∈ reachableFrom job edges) ∧
    ∀ edges root, (reachableFrom root edges).Nodup ∧
      (∀ v, v ∈ reachableFrom root edges ↔ Path edges root v) ∧
      (root ∈ reachableFrom root edges ↔ Path edges root root) := by
  constructor
  · intro jobs edges graph built job
    have sound := sound_of_build built
    have found (v : JobId) : v ∈ graph.downstream job ↔ Path edges job v :=
      (mem_downstream sound job).trans (precedes_iff_path built)
    refine ⟨found, ?_, ?_, fun v => (found v).trans mem_reachableFrom.symm⟩
    · exact (ascending_downstream sound job).imp Text.Utf8.encode_lt_encode
    · exact fun round => (acceptable_of_build built).acyclic job ((found job).mp round)
  · exact fun edges root =>
      ⟨nodup_spread List.nodup_nil, fun v => mem_reachableFrom, mem_reachableFrom⟩

/-- Behind the second job of a diamond lies the last one, for either search; and a job on a cycle
can be reached from itself, unlike one that only leads there. -/
theorem diamond_and_circle_searched :
    build diamond.jobs diamond.edges = .ok diamond ∧ ⟨"4"⟩ ∈ diamond.downstream ⟨"2"⟩ ∧
      ⟨"4"⟩ ∈ reachableFrom ⟨"2"⟩ diamond.edges ∧ ⟨"2"⟩ ∉ diamond.downstream ⟨"2"⟩ ∧
      ⟨"b"⟩ ∈ reachableFrom ⟨"b"⟩ [⟨⟨"a"⟩, ⟨"b"⟩⟩, ⟨⟨"b"⟩, ⟨"c"⟩⟩, ⟨⟨"c"⟩, ⟨"b"⟩⟩] ∧
      ⟨"a"⟩ ∉ reachableFrom ⟨"a"⟩ [⟨⟨"a"⟩, ⟨"b"⟩⟩, ⟨⟨"b"⟩, ⟨"c"⟩⟩, ⟨⟨"c"⟩, ⟨"b"⟩⟩] := by
  obtain ⟨graphs, lists⟩ := searches_find_ends_of_paths
  obtain ⟨found, -, apart, alike⟩ := graphs _ _ _ build_diamond ⟨"2"⟩
  have last : ⟨"4"⟩ ∈ diamond.downstream ⟨"2"⟩ := (found _).mpr (.single (by decide))
  refine ⟨build_diamond, last, (alike _).mp last, apart, ?_, ?_⟩
  · refine (lists _ _).2.2.mpr (.tail (.single ?_ : Path _ _ ⟨"c"⟩) ?_) <;> decide
  · intro round
    obtain ⟨u, -, edge⟩ := Relation.TransGen.tail'_iff.mp ((lists _ _).2.2.mp round)
    simp at edge

end Graph

end Precedence

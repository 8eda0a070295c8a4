import Mathlib

namespace Precedence.Text

open String in
/-- Splitting a text of which `l` has been passed, and `m` since the last separator. -/
theorem splitOnAux_eq (separator : Char) (l m r : List Char) (found : List String) :
    String.splitOnAux (String.ofList (l ++ m ++ r)) (String.singleton separator)
        ⟨String.utf8Len l⟩ ⟨String.utf8Len l + String.utf8Len m⟩ 0 found =
      found.reverse ++ (List.splitOnPPrepend (· == separator) r m.reverse).map String.ofList := by
  induction r generalizing l m found with
  | nil =>
    have ends := (String.atEnd_of_valid (l ++ m) []).mpr rfl
    rw [String.utf8Len_append] at ends
    rw [String.splitOnAux, if_pos ends, String.extract_of_valid, List.splitOnPPrepend_nil]
    simp
  | cons c r ih =>
    have inside :
        ¬ Pos.Raw.atEnd (String.ofList (l ++ m ++ c :: r)) ⟨utf8Len l + utf8Len m⟩ = true := by
      rw [← String.utf8Len_append, String.atEnd_of_valid]
      simp
    have here := String.get_of_valid (l ++ m) (c :: r)
    have next := String.next_of_valid (l ++ m) c r
    have first : Pos.Raw.get (String.singleton separator) 0 = separator :=
      String.get_of_valid [] [separator]
    have second : Pos.Raw.next (String.singleton separator) 0 = ⟨separator.utf8Size⟩ := by
      simpa using String.next_of_valid [] separator []
    have past : Pos.Raw.atEnd (String.singleton separator) ⟨separator.utf8Size⟩ = true := by
      simpa using (String.atEnd_of_valid [separator] []).mpr rfl
    rw [String.utf8Len_append] at here next
    rw [String.splitOnAux, if_neg inside, here, next, first, second, if_pos past]
    have extracted := String.extract_of_valid l m (c :: r)
    by_cases same : c = separator
    · subst same
      have back : Pos.Raw.unoffsetBy ⟨utf8Len l + utf8Len m + c.utf8Size⟩ ⟨c.utf8Size⟩ =
          ⟨utf8Len l + utf8Len m⟩ := by simp [Pos.Raw.unoffsetBy]
      have behind := ih (l ++ m ++ [c]) [] (String.ofList m :: found)
      have text : l ++ m ++ [c] ++ [] ++ r = l ++ m ++ c :: r := by simp
      have place : utf8Len (l ++ m ++ [c]) = utf8Len l + utf8Len m + c.utf8Size := by
        simp [Nat.add_assoc]
      rw [text, place, utf8Len_nil, Nat.add_zero] at behind
      rw [List.headD_cons, if_pos (beq_self_eq_true c), back, extracted, behind]
      simp [List.splitOnPPrepend_cons_eq_if]
    · have back : Pos.Raw.unoffsetBy ⟨utf8Len l + utf8Len m⟩ 0 = ⟨utf8Len l + utf8Len m⟩ := rfl
      have behind := ih l (m ++ [c]) found
      have text : l ++ (m ++ [c]) ++ r = l ++ m ++ c :: r := by simp
      have place : utf8Len l + utf8Len (m ++ [c]) = utf8Len l + utf8Len m + c.utf8Size := by
        simp [Nat.add_assoc]
      rw [text, place, List.reverse_append, List.reverse_singleton, List.singleton_append] at behind
      rw [List.headD_cons, if_neg (by simp [same]), back, next, behind]
      simp [List.splitOnPPrepend_cons_eq_if, same]

/-- A text is split at a character as the list of its characters is. -/
theorem splitOn_eq (text : String) (separator : Char) :
    text.splitOn (String.singleton separator) =
      (text.toList.splitOn separator).map String.ofList := by
  have some : (String.singleton separator == "") = false := by
    rw [beq_eq_false_iff_ne, ne_eq, ← String.toList_inj]
    simp
  have whole := splitOnAux_eq separator [] [] text.toList []
  simp only [List.nil_append, String.ofList_toList, String.utf8Len_nil, Nat.add_zero,
    List.reverse_nil, List.splitOnPPrepend_nil_right] at whole
  rw [String.splitOn, some, if_neg Bool.false_ne_true]
  exact whole

theorem splitOn_intercalate (separator : Char) (texts : List String)
    (free : ∀ text ∈ texts, separator ∉ text.toList) (some : texts ≠ []) :
    ((String.singleton separator).intercalate texts).splitOn (String.singleton separator) =
      texts := by
  have parts : ∀ part ∈ texts.map String.toList, separator ∉ part := by
    simpa using free
  rw [splitOn_eq, String.toList_intercalate, String.toList_singleton,
    List.splitOn_intercalate separator parts (by simpa using some), List.map_map]
  exact (List.map_congr_left fun text _ => String.ofList_toList).trans (List.map_id _)

end Precedence.Text

import Mathlib
import Precedence.Text.Blank
import Precedence.Text.Count
import Precedence.Text.LowerCase
/-!
# Texts in lower case

What stands around a capital sigma decides how it is written in lower case, so a text is not put in
lower case one character at a time. But no word reaches beyond a separator, so the parts of a text
between separators are put in lower case one by one (`lower_append`). The small letters in the table
are no capital letters (`small_apart`), so a text in lower case stays as it is (`lower_lower`), and
no sign or blank comes out of a letter (`Apart.of_mem_lowerFrom`).
-/

namespace Precedence.Text

/-- A character that is no capital letter. -/
def Settled (c : Char) : Prop := c ≠ 'Σ' ∧ c ≠ 'İ' ∧ smallLetter c = c

/-- A character that stays as it is, and that no word reaches beyond. -/
structure IsSeparator (d : Char) : Prop where
  settled : Settled d
  uncased : isCased d = false
  shown : isIgnorable d = false

theorem toList_lower (text : String) : (lower text).toList = lowerFrom [] text.toList :=
  String.toList_ofList

section
variable {c d : Char} {before after cs rest near far : List Char}

theorem lowerBetween_of_settled (h : Settled c) : lowerBetween before c after = [c] := by
  obtain ⟨sigma, dotted, small⟩ := h
  rw [lowerBetween, if_neg sigma, if_neg dotted, small]

/-! ## Parts of a text -/

namespace IsSeparator

variable (h : IsSeparator d)
include h

theorem goesOn_append : goesOn (cs ++ d :: rest) = goesOn cs := by
  induction cs with
  | nil => simp [goesOn, h.shown, h.uncased]
  | cons c cs ih =>
    unfold goesOn at ih ⊢
    by_cases skipped : isIgnorable c = true
    · simpa [skipped] using ih
    · simp [skipped]

/-- What stands before a separator does not matter. -/
theorem lowerFrom_near : lowerFrom (near ++ d :: far) cs = lowerFrom near cs := by
  induction cs generalizing near with
  | nil => rfl
  | cons c cs ih =>
    have same : lowerBetween (near ++ d :: far) c cs = lowerBetween near c cs := by
      unfold lowerBetween
      rw [h.goesOn_append]
    rw [lowerFrom, lowerFrom, same]
    exact congrArg _ (@ih (c :: near))

theorem lowerFrom_append :
    lowerFrom before (cs ++ d :: rest) = lowerFrom before cs ++ d :: lowerFrom [] rest := by
  induction cs generalizing before with
  | nil =>
    have first : lowerBetween before d rest = [d] := lowerBetween_of_settled h.settled
    change lowerBetween before d rest ++ lowerFrom ([] ++ d :: before) rest = _
    rw [first, h.lowerFrom_near]
    rfl
  | cons c cs ih =>
    have same : lowerBetween before c (cs ++ d :: rest) = lowerBetween before c cs := by
      unfold lowerBetween
      rw [h.goesOn_append]
    rw [List.cons_append, lowerFrom, lowerFrom, same, ih, List.append_assoc]

/-- The parts of a text before and after a separator are put in lower case one by one. -/
theorem lower_append (front back : String) :
    lower (front ++ (String.singleton d ++ back)) =
      lower front ++ (String.singleton d ++ lower back) := by
  rw [← String.toList_inj]
  simp only [toList_lower, String.toList_append, String.toList_singleton, List.singleton_append]
  exact h.lowerFrom_append

end IsSeparator

/-! ## What is in lower case already -/

/-- The small letters of two runs of capital letters are apart from the capital letters of either,
or lie between them. -/
theorem small_apart : ∀ run ∈ capitalRuns, ∀ other ∈ capitalRuns,
    run.small + (run.last - run.first) < other.first ∨ other.last < run.small ∨
      run.step = 2 ∧ other.step = 2 ∧ (run.small + other.first) % 2 = 1 := by
  decide +kernel

/-- The small letters are characters. None of them is the capital I with a dot. -/
theorem small_valid : ∀ run ∈ capitalRuns,
    (run.small + (run.last - run.first) < 0xD800 ∨
      0xDFFF < run.small ∧ run.small + (run.last - run.first) < 0x110000) ∧
    (run.small + (run.last - run.first) < 0x130 ∨ 0x130 < run.small ∨
      run.step = 2 ∧ run.small % 2 = 1) := by
  decide +kernel

theorem has_iff {run : CapitalRun} : run.has c = true ↔ run.first ≤ c.toNat ∧
    c.toNat ≤ run.last ∧ (c.toNat - run.first) % run.step = 0 := by
  simp [CapitalRun.has, and_assoc]

/-- A character is no capital letter, or its small letter is found in the table. -/
theorem smallLetter_cases (c : Char) :
    smallLetter c = c ∧ (∀ run ∈ capitalRuns, run.has c = false) ∨
      ∃ run ∈ capitalRuns, run.has c = true ∧
        (smallLetter c).toNat = run.small + (c.toNat - run.first) := by
  unfold smallLetter
  cases found : capitalRuns.find? (·.has c) with
  | none =>
    refine .inl ⟨rfl, fun run listed => ?_⟩
    simpa using List.find?_eq_none.mp found run listed
  | some run =>
    have listed := List.mem_of_find?_eq_some found
    have has : run.has c = true := by simpa using List.find?_some found
    refine .inr ⟨run, listed, has, ?_⟩
    obtain ⟨low, high, -⟩ := has_iff.mp has
    have bound := (small_valid run listed).1
    have valid : (run.small + (c.toNat - run.first)).isValidChar := by
      unfold Nat.isValidChar
      omega
    rw [Char.toNat_ofNat, if_pos valid]

theorem smallLetter_eq_of_not_has (h : ∀ run ∈ capitalRuns, run.has c = false) :
    smallLetter c = c := by
  obtain ⟨same, -⟩ | ⟨run, listed, has, -⟩ := smallLetter_cases c
  · exact same
  · simp [h run listed] at has

theorem settled_smallLetter (dotted : c ≠ 'İ') (sigma : c ≠ 'Σ') : Settled (smallLetter c) := by
  obtain ⟨same, none⟩ | ⟨run, listed, has, moved⟩ := smallLetter_cases c
  · rw [same]
    exact ⟨sigma, dotted, same⟩
  · obtain ⟨low, high, even⟩ := has_iff.mp has
    have none : ∀ other ∈ capitalRuns, other.has (smallLetter c) = false := by
      intro other known
      rw [Bool.eq_false_iff, ne_eq, has_iff, moved]
      rintro ⟨low', high', even'⟩
      obtain below | above | ⟨two, two', odd⟩ := small_apart run listed other known
      · omega
      · omega
      · rw [two] at even
        rw [two'] at even'
        omega
    refine ⟨?_, ?_, smallLetter_eq_of_not_has none⟩
    · intro same
      have capital : (⟨0x3A3, 0x3AB, 1, 0x3C3⟩ : CapitalRun) ∈ capitalRuns := by decide +kernel
      have found := none _ capital
      rw [same] at found
      exact absurd found (by decide)
    · intro same
      have place : (smallLetter c).toNat = 0x130 := by rw [same]; rfl
      rw [moved] at place
      obtain below | above | ⟨two, odd⟩ := (small_valid run listed).2
      · omega
      · omega
      · rw [two] at even
        omega

theorem settled_of_mem_lowerBetween (h : d ∈ lowerBetween before c after) : Settled d := by
  unfold lowerBetween at h
  split at h
  · obtain rfl := List.mem_singleton.mp h
    split <;> exact ⟨by decide, by decide, by decide +kernel⟩
  · rename_i sigma
    split at h
    · obtain rfl | rfl : d = 'i' ∨ d = '\u0307' := by simpa using h
      · exact ⟨by decide, by decide, by decide +kernel⟩
      · exact ⟨by decide, by decide, by decide +kernel⟩
    · rename_i dotted
      rw [List.mem_singleton.mp h]
      exact settled_smallLetter dotted sigma

theorem settled_of_mem_lowerFrom (h : d ∈ lowerFrom before cs) : Settled d := by
  induction cs generalizing before with
  | nil => simp [lowerFrom] at h
  | cons c cs ih =>
    obtain here | later := List.mem_append.mp h
    · exact settled_of_mem_lowerBetween here
    · exact ih later

theorem lowerFrom_of_settled (h : ∀ c ∈ cs, Settled c) : lowerFrom before cs = cs := by
  induction cs generalizing before with
  | nil => rfl
  | cons c cs ih =>
    rw [lowerFrom, lowerBetween_of_settled (h c List.mem_cons_self),
      ih fun d later => h d (List.mem_cons_of_mem c later)]
    rfl

/-- A text in lower case stays as it is. -/
theorem lower_lower (text : String) : lower (lower text) = lower text := by
  rw [← String.toList_inj, toList_lower, toList_lower,
    lowerFrom_of_settled fun c => settled_of_mem_lowerFrom]

/-! ## What is no letter -/

/-- No capital letter has this character as its small letter, or as a part of it. -/
structure Apart (d : Char) : Prop where
  table : ∀ run ∈ capitalRuns, d.toNat < run.small ∨ run.small + (run.last - run.first) < d.toNat
  others : d ∉ ['σ', 'ς', 'i', '\u0307']

theorem small_gaps : ∀ run ∈ capitalRuns,
    0x61 ≤ run.small ∧ run.small + (run.last - run.first) ≤ 0x7A ∨
      0xDF ≤ run.small ∧
        (run.small + (run.last - run.first) < 0x1680 ∨ 0x1680 < run.small) ∧
        (run.small + (run.last - run.first) < 0x2000 ∨ 0x205F < run.small) ∧
        (run.small + (run.last - run.first) < 0x3000 ∨ 0x3000 < run.small) := by
  decide +kernel

/-- The signs in ASCII and all blanks are no letters. -/
theorem apart_of_gap (h : d.toNat < 0x61 ∨ 0x7A < d.toNat ∧ d.toNat < 0xDF ∨ d.toNat = 0x1680 ∨
    0x2000 ≤ d.toNat ∧ d.toNat ≤ 0x205F ∨ d.toNat = 0x3000) : Apart d where
  table run listed := by
    obtain ⟨low, high⟩ | ⟨wide, gaps⟩ := small_gaps run listed
    · omega
    · omega
  others member := by
    have small : d.toNat ∈ [0x3C3, 0x3C2, 0x69, 0x307] := List.mem_map_of_mem member
    simp only [List.mem_cons, List.not_mem_nil, or_false] at small
    omega

theorem apart_of_isBlank (blank : isBlank d = true) : Apart d := by
  simp only [isBlank, Bool.or_eq_true, Bool.and_eq_true, decide_eq_true_eq] at blank
  exact apart_of_gap (by omega)

theorem Apart.of_mem_lowerFrom (h : Apart d) (member : d ∈ lowerFrom before cs) : d ∈ cs := by
  induction cs generalizing before with
  | nil => exact member
  | cons c cs ih =>
    obtain here | later := List.mem_append.mp member
    · have others := h.others
      simp only [List.mem_cons, List.not_mem_nil, or_false, not_or] at others
      obtain ⟨sigma, last, dotted, dot⟩ := others
      unfold lowerBetween at here
      split at here
      · obtain rfl := List.mem_singleton.mp here
        split at sigma <;> simp_all
      · split at here
        · simp [dotted, dot] at here
        · obtain ⟨same, -⟩ | ⟨run, listed, has, moved⟩ := smallLetter_cases c
          · rw [same] at here
            exact List.mem_singleton.mp here ▸ List.mem_cons_self
          · obtain ⟨low, high, -⟩ := has_iff.mp has
            have place : d.toNat = run.small + (c.toNat - run.first) := by
              rw [List.mem_singleton.mp here, moved]
            have outside := h.table run listed
            omega
    · exact List.mem_cons_of_mem c (ih later)

/-! ## Names in ASCII -/

/-- Of the small letters in ASCII only the k is that of a letter beyond ASCII as well. -/
theorem small_ascii : ∀ run ∈ capitalRuns,
    run.last < 0x80 ∨ 0x80 ≤ run.small ∨ run.small = 0x6B ∧ run.first = run.last := by
  decide +kernel

theorem smallLetter_ascii : ∀ n < 0x80, smallLetter (.ofNat n) = (Char.ofNat n).toLower := by
  decide +kernel

/-- An ASCII character that is in no way the small letter of a letter beyond ASCII. -/
structure IsCommon (c : Char) : Prop where
  ascii : c.toNat < 0x80
  unshared : c ≠ 'k'

theorem toLower_of_wide (wide : 0x80 ≤ c.toNat) : c.toLower = c := by
  refine Char.toLower_eq_of_not_isUpper fun upper => ?_
  simp only [Char.isUpper, ge_iff_le, UInt32.le_iff_toNat_le,
    decide_eq_true_eq] at upper
  have high : c.toNat ≤ 0x5A := upper.2
  omega

/-- Only letters have another lower case. -/
theorem toLower_eq_iff (other : d.isAlpha = false) : c.toLower = d ↔ c = d := by
  have same : c.isAlpha = false → c.toLower = c := fun other =>
    Char.toLower_eq_of_not_isUpper fun upper => by
      rw [Char.isAlpha, upper] at other
      exact absurd other (by simp)
  constructor
  · rintro rfl
    rw [Char.isAlpha_toLower_eq_isAlpha] at other
    exact (same other).symm
  · rintro rfl
    exact same other

theorem isAlpha_of_isDigit (digit : c.isDigit = true) : c.isAlpha = false := by
  grind [Char.isDigit, Char.isLower, Char.isAlpha, Char.isUpper]

theorem isDigit_toLower (c : Char) : c.toLower.isDigit = c.isDigit := by
  rw [Bool.eq_iff_iff]
  constructor
  · intro digit
    rwa [← (toLower_eq_iff (isAlpha_of_isDigit digit)).mp rfl] at digit
  · intro digit
    rwa [(toLower_eq_iff (isAlpha_of_isDigit digit)).mpr rfl]

theorem countDigits?_toLower : countDigits? (cs.map Char.toLower) = countDigits? cs := by
  have all : (cs.map Char.toLower).all Char.isDigit = cs.all Char.isDigit := by
    simp [Function.comp_def, isDigit_toLower]
  by_cases digits : cs.all Char.isDigit = true
  · have same : cs.map Char.toLower = cs := by
      refine (List.map_congr_left fun c member => ?_).trans (List.map_id _)
      exact (toLower_eq_iff (isAlpha_of_isDigit (List.all_eq_true.mp digits c member))).mpr rfl
    rw [same]
  · rw [countDigits?, countDigits?, all]
    simp [digits]

theorem count?_toLower (text : String) : count? text.toLower = count? text := by
  rw [count?, count?, String.toLower, String.toList_map]
  cases text.toList with
  | nil => rfl
  | cons c rest =>
    have plus := toLower_eq_iff (c := c) (d := '+') (by decide)
    by_cases sign : c = '+'
    · subst sign
      exact countDigits?_toLower
    · rw [List.map_cons]
      split
      · rename_i same
        exact absurd (plus.mp (List.cons.inj same).1) sign
      · split
        · rename_i same
          exact absurd (List.cons.inj same).1 sign
        · exact @countDigits?_toLower (c :: rest)

theorem toLower_toLower (text : String) : text.toLower.toLower = text.toLower := by
  simp [String.toLower, ← String.toList_inj]

theorem smallLetter_eq_iff (common : IsCommon d) : smallLetter c = d ↔ c.toLower = d := by
  by_cases ascii : c.toNat < 0x80
  · have same := smallLetter_ascii c.toNat ascii
    rw [Char.ofNat_toNat] at same
    rw [same]
  · have wide : 0x80 ≤ c.toNat := Nat.not_lt.mp ascii
    rw [toLower_of_wide wide]
    have narrow := common.ascii
    constructor
    · rintro rfl
      obtain ⟨same, -⟩ | ⟨run, listed, has, moved⟩ := smallLetter_cases c
      · rw [same] at narrow
        omega
      · obtain ⟨low, high, -⟩ := has_iff.mp has
        obtain inside | outside | ⟨small, single⟩ := small_ascii run listed
        · omega
        · omega
        · refine absurd (Char.toNat_inj.mp ?_) common.unshared
          rw [moved, show c.toNat - run.first = 0 by omega, small]
          rfl
    · rintro rfl
      omega

theorem lowerBetween_of_other (sigma : c ≠ 'Σ') (dotted : c ≠ 'İ') :
    lowerBetween before c after = [smallLetter c] := by
  rw [lowerBetween, if_neg sigma, if_neg dotted]

/-- To a name of common characters, a text in lower case compares as it does in ASCII. -/
theorem lowerFrom_eq_iff {name : List Char} (common : ∀ d ∈ name, IsCommon d) :
    lowerFrom before cs = name ↔ cs.map Char.toLower = name := by
  induction cs generalizing before name with
  | nil => rfl
  | cons c cs ih =>
    -- no other small letter than an ASCII one can begin the name
    have foreign {x : Char} {more : List Char} (wide : 0x80 ≤ x.toNat) : x :: more ≠ name := by
      rintro rfl
      have narrow := (common x List.mem_cons_self).ascii
      omega
    by_cases sigma : c = 'Σ'
    · subst sigma
      refine iff_of_false ?_ (foreign (by decide))
      rw [lowerFrom, lowerBetween, if_pos rfl]
      split
      · exact foreign (by decide)
      · exact foreign (by decide)
    · by_cases dotted : c = 'İ'
      · subst dotted
        refine iff_of_false ?_ (foreign (by decide))
        rw [lowerFrom, lowerBetween, if_neg (by decide), if_pos rfl]
        rintro rfl
        have narrow := (common '\u0307' (by simp)).ascii
        exact absurd narrow (by decide)
      · rw [lowerFrom, lowerBetween_of_other sigma dotted, List.singleton_append, List.map_cons]
        cases name with
        | nil => simp
        | cons d name =>
          rw [List.cons.injEq, List.cons.injEq, smallLetter_eq_iff (common d List.mem_cons_self),
            ih fun x later => common x (List.mem_cons_of_mem d later)]

/-- A text is a name of common characters, whatever its case, if it is so in ASCII. -/
theorem lower_eq_iff {text name : String} (common : ∀ d ∈ name.toList, IsCommon d) :
    lower text = name ↔ text.toLower = name := by
  rw [← String.toList_inj, ← String.toList_inj, toList_lower, lowerFrom_eq_iff common,
    String.toLower, String.toList_map]

end

end Precedence.Text

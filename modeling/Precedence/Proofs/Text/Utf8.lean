import Mathlib.Tactic.SplitIfs
import Precedence.Proofs.Text.Bytes

namespace Precedence.Text.Utf8

section
variable {b low high : UInt8} {bits owed k n v : Nat} {rest more : List UInt8}

theorem head?_of_two (h : 0x2 ≤ k) (h' : k < 0x20) (byte : b.toNat = k + 0xC0) :
    head? b = some ⟨1, 0x80, 0xBF, k⟩ := by
  simp only [head?, byte, Bool.and_eq_true, decide_eq_true_eq]
  rw [if_pos (by omega), Nat.add_sub_cancel]

theorem head?_of_three (h : k < 0x10) (byte : b.toNat = k + 0xE0) :
    head? b = some ⟨2, if k = 0 then 0xA0 else 0x80, if k = 0xD then 0x9F else 0xBF, k⟩ := by
  simp only [head?, byte, Bool.and_eq_true, decide_eq_true_eq]
  rw [if_neg (by omega)]
  by_cases first : k = 0
  · simp [first]
  · by_cases surrogates : k = 0xD
    · simp [surrogates]
    · rw [if_neg (by omega), if_neg (by omega), if_pos (by omega), if_neg first,
        if_neg surrogates, Nat.add_sub_cancel]

theorem head?_of_four (h : k < 5) (byte : b.toNat = k + 0xF0) :
    head? b = some ⟨3, if k = 0 then 0x90 else 0x80, if k = 4 then 0x8F else 0xBF, k⟩ := by
  simp only [head?, byte, Bool.and_eq_true, decide_eq_true_eq]
  rw [if_neg (by omega), if_neg (by omega), if_neg (by omega), if_neg (by omega)]
  by_cases first : k = 0
  · simp [first]
  · by_cases last : k = 4
    · simp [last]
    · rw [if_neg (by omega), if_pos (by omega), if_neg first, if_neg last, Nat.add_sub_cancel]

theorem toNat_ofNat_of_lt (small : n < 0x100) : (UInt8.ofNat n).toNat = n := Nat.mod_eq_of_lt small

theorem not_ofNat_lt (large : 0x80 ≤ n) (small : n < 0x100) : ¬ UInt8.ofNat n < 0x80 := by
  rw [UInt8.lt_iff_toNat_lt, toNat_ofNat_of_lt small]
  exact Nat.not_lt.mpr large

/-- A byte behind the first one adds six bits. -/
theorem tail_cons (byte : b.toNat = n + 0x80) (six : n < 64) (above : low.toNat ≤ b.toNat)
    (below : b.toNat ≤ high.toNat) :
    tail low high bits (owed + 1) (b :: rest) = tail 0x80 0xBF (bits * 64 + n) owed rest := by
  have inside : (decide (low ≤ b) && decide (b ≤ high)) = true := by
    simpa [UInt8.le_iff_toNat_le] using And.intro above below
  have left : b.toNat % 64 = n := by omega
  rw [tail, if_pos inside, left]

theorem tail_following (byte : b.toNat = n + 0x80) (six : n < 64) :
    tail 0x80 0xBF bits (owed + 1) (b :: rest) = tail 0x80 0xBF (bits * 64 + n) owed rest := by
  refine tail_cons byte six ?_ ?_
  · change 128 ≤ _
    omega
  · change _ ≤ 191
    omega

/-- A character of several bytes. -/
theorem decode_of_head {head : Head} {c : Char} (wide : ¬ b < 0x80) (found : head? b = some head)
    (whole : tail head.low head.high head.bits head.owed more = (some c, rest)) :
    decode (b :: more) = some c :: decode rest := by
  rw [decode, if_neg wide, found]
  simp only [whole]

theorem decode_two (h : 0x80 ≤ v) (h' : v < 0x800) :
    decode (.ofNat (v / 64 + 192) :: .ofNat (v % 64 + 128) :: rest) =
      some (.ofNat v) :: decode rest := by
  have found := head?_of_two (b := .ofNat (v / 64 + 192)) (k := v / 64) (by omega) (by omega)
    (toNat_ofNat_of_lt (by omega))
  refine decode_of_head (not_ofNat_lt (by omega) (by omega)) found ?_
  have number : v / 64 * 64 + v % 64 = v := by omega
  simp only
  rw [tail_following (toNat_ofNat_of_lt (by omega)) (by omega), number, tail]

theorem decode_three (h : 0x800 ≤ v) (h' : v < 0x10000) (valid : v < 0xD800 ∨ 0xDFFF < v) :
    decode (.ofNat (v / 4096 + 224) :: .ofNat (v / 64 % 64 + 128) :: .ofNat (v % 64 + 128) ::
        rest) = some (.ofNat v) :: decode rest := by
  have found := head?_of_three (b := .ofNat (v / 4096 + 224)) (k := v / 4096) (by omega)
    (toNat_ofNat_of_lt (by omega))
  have second : (UInt8.ofNat (v / 64 % 64 + 128)).toNat = v / 64 % 64 + 128 :=
    toNat_ofNat_of_lt (by omega)
  refine decode_of_head (not_ofNat_lt (by omega) (by omega)) found ?_
  have number : (v / 4096 * 64 + v / 64 % 64) * 64 + v % 64 = v := by omega
  simp only
  rw [tail_cons second (by omega), tail_following (toNat_ofNat_of_lt (by omega)) (by omega),
    number, tail]
  · rw [second]
    split
    · change 160 ≤ _
      omega
    · change 128 ≤ _
      omega
  · rw [second]
    split
    · change _ ≤ 159
      omega
    · change _ ≤ 191
      omega

theorem decode_four (h : 0x10000 ≤ v) (h' : v < 0x110000) :
    decode (.ofNat (v / 262144 + 240) :: .ofNat (v / 4096 % 64 + 128) ::
      .ofNat (v / 64 % 64 + 128) :: .ofNat (v % 64 + 128) :: rest) =
      some (.ofNat v) :: decode rest := by
  have found := head?_of_four (b := .ofNat (v / 262144 + 240)) (k := v / 262144) (by omega)
    (toNat_ofNat_of_lt (by omega))
  have second : (UInt8.ofNat (v / 4096 % 64 + 128)).toNat = v / 4096 % 64 + 128 :=
    toNat_ofNat_of_lt (by omega)
  refine decode_of_head (not_ofNat_lt (by omega) (by omega)) found ?_
  have number :
      ((v / 262144 * 64 + v / 4096 % 64) * 64 + v / 64 % 64) * 64 + v % 64 = v := by omega
  simp only
  rw [tail_cons second (by omega), tail_following (toNat_ofNat_of_lt (by omega)) (by omega),
    tail_following (toNat_ofNat_of_lt (by omega)) (by omega), number, tail]
  · rw [second]
    split
    · change 144 ≤ _
      omega
    · change 128 ≤ _
      omega
  · rw [second]
    split
    · change _ ≤ 143
      omega
    · change _ ≤ 191
      omega

end

/-- The bytes of a character are read as that character. -/
theorem decode_utf8EncodeChar (c : Char) (rest : List UInt8) :
    decode (String.utf8EncodeChar c ++ rest) = some c :: decode rest := by
  have bound := toNat_val_lt c
  have valid := c.valid
  simp only [UInt32.isValidChar, Nat.isValidChar] at valid
  have back : Char.ofNat c.val.toNat = c := Char.ofNat_toNat c
  simp only [String.utf8EncodeChar]
  generalize c.val.toNat = v at bound valid back
  rw [← back]
  split_ifs with one two three
  · have narrow : UInt8.ofNat v < 0x80 := by
      rw [UInt8.lt_iff_toNat_lt, toNat_ofNat_of_lt (by omega)]
      change v < 128
      omega
    rw [List.singleton_append, decode, if_pos narrow, toNat_ofNat_of_lt (by omega)]
  · rw [show v / 64 % 32 = v / 64 by omega]
    exact decode_two (by omega) (by omega)
  · rw [show v / 4096 % 16 = v / 4096 by omega]
    exact decode_three (by omega) (by omega) (by omega)
  · rw [show v / 262144 % 8 = v / 262144 by omega]
    exact decode_four (by omega) (by omega)

theorem decode_flatMap (cs : List Char) (rest : List UInt8) :
    decode (cs.flatMap String.utf8EncodeChar ++ rest) = cs.map some ++ decode rest := by
  induction cs with
  | nil => rfl
  | cons c cs ih =>
    rw [List.flatMap_cons, List.append_assoc, decode_utf8EncodeChar, ih]
    rfl

theorem mapM_id_map_some (cs : List Char) : (cs.map some).mapM id = some cs := by
  induction cs with
  | nil => rfl
  | cons c cs ih =>
    rw [List.map_cons, List.mapM_cons, ih]
    rfl

/-- The bytes of characters are read as their text. -/
theorem text?_flatMap (cs : List Char) :
    text? (cs.flatMap String.utf8EncodeChar) = some (.ofList cs) := by
  have whole := decode_flatMap cs []
  rw [List.append_nil, decode, List.append_nil] at whole
  rw [text?, whole, mapM_id_map_some, Option.map_some]

end Precedence.Text.Utf8

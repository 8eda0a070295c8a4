import Mathlib.Tactic.SplitIfs
import Precedence.Text.Utf8
/-!
# The order of texts is the order of their bytes

Texts are compared character by character, and a character with a smaller number has smaller bytes:
where the bytes of two characters differ for the first time, they differ in the same direction
(`utf8EncodeChar_append_lt`). So a text that comes before another has smaller bytes
(`encode_lt_encode`).
-/

namespace Precedence.Text.Utf8

theorem toNat_val_lt (c : Char) : c.val.toNat < 0x110000 := by
  have valid := c.valid
  simp only [UInt32.isValidChar, Nat.isValidChar] at valid
  omega

/-- Two characters differ within their bytes, whatever follows. -/
theorem utf8EncodeChar_append_lt {c d : Char} (h : c < d) (xs ys : List UInt8) :
    String.utf8EncodeChar c ++ xs < String.utf8EncodeChar d ++ ys := by
  have less : c.val.toNat < d.val.toNat := UInt32.lt_iff_toNat_lt.mp h
  have bound := toNat_val_lt d
  simp only [String.utf8EncodeChar]
  generalize c.val.toNat = m at less
  generalize d.val.toNat = n at less bound
  split_ifs <;>
    simp (disch := omega) only [List.cons_append, List.nil_append, List.cons_lt_cons_iff,
      UInt8.lt_iff_toNat_lt, ← UInt8.toNat_inj, UInt8.toNat_ofNat', Nat.reducePow,
      Nat.mod_eq_of_lt] <;>
    omega

theorem loop_toList (bytes : ByteArray) (i : Nat) (read : List UInt8) :
    ByteArray.toList.loop bytes i read = read.reverse ++ bytes.data.toList.drop i := by
  fun_induction ByteArray.toList.loop bytes i read with
  | case1 i read inside ih =>
    have here : i < bytes.data.toList.length := inside
    have byte : bytes.get! i = bytes.data.toList[i] := getElem!_pos bytes.data i inside
    rw [ih, List.reverse_cons, List.append_assoc, List.singleton_append, byte,
      List.drop_eq_getElem_cons here]
  | case2 i read outside =>
    have past : bytes.data.toList.length ≤ i := Nat.not_lt.mp outside
    rw [List.drop_eq_nil_of_le past, List.append_nil]

theorem encode_eq (text : String) : encode text = text.toList.flatMap String.utf8EncodeChar := by
  have bytes : text.toList.utf8Encode = text.toByteArray := String.utf8Encode_toList
  rw [encode, ByteArray.toList, loop_toList, String.toUTF8, ← bytes, List.utf8Encode,
    List.toList_data_toByteArray]
  rfl

theorem encode_lt_encode {s t : String} (h : s < t) : encode s < encode t := by
  have less : s.toList < t.toList := h
  rw [encode_eq, encode_eq]
  generalize s.toList = cs at less
  generalize t.toList = ds at less
  induction cs generalizing ds with
  | nil =>
    cases ds with
    | nil => simp at less
    | cons d ds =>
      obtain ⟨b, bs, bytes⟩ := List.exists_cons_of_ne_nil (@String.utf8EncodeChar_ne_nil d)
      simp [bytes]
  | cons c cs ih =>
    cases ds with
    | nil => simp at less
    | cons d ds =>
      rw [List.flatMap_cons, List.flatMap_cons]
      obtain first | ⟨rfl, rest⟩ := List.cons_lt_cons_iff.mp less
      · exact utf8EncodeChar_append_lt first _ _
      · exact List.append_left_lt (ih ds rest)

end Precedence.Text.Utf8

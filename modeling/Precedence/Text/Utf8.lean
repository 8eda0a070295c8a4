/-!
# Reading bytes as text

`decode` splits bytes into characters and malformed parts. A malformed part is the longest start
of a character that its next byte, or the end, breaks off; it stands as `none`. Overlong forms,
surrogates and numbers beyond the last code point are broken off at their second byte.
-/

namespace Precedence.Text.Utf8

/-- What the first byte of a character of several bytes announces: how many bytes follow, the least
and the greatest second byte, and the bits it carries. -/
structure Head where
  owed : Nat
  low : UInt8
  high : UInt8
  bits : Nat

def head? (b : UInt8) : Option Head :=
  let n := b.toNat
  if 0xC2 ≤ n && n ≤ 0xDF then some ⟨1, 0x80, 0xBF, n - 0xC0⟩
  else if n = 0xE0 then some ⟨2, 0xA0, 0xBF, 0⟩
  else if n = 0xED then some ⟨2, 0x80, 0x9F, 0xD⟩
  else if 0xE1 ≤ n && n ≤ 0xEF then some ⟨2, 0x80, 0xBF, n - 0xE0⟩
  else if n = 0xF0 then some ⟨3, 0x90, 0xBF, 0⟩
  else if 0xF1 ≤ n && n ≤ 0xF3 then some ⟨3, 0x80, 0xBF, n - 0xF0⟩
  else if n = 0xF4 then some ⟨3, 0x80, 0x8F, 4⟩
  else none

/-- Reads the bytes that are owed, up to the first that does not fit. Gives the character, if none
was missing, and the bytes left. -/
def tail (low high : UInt8) (bits : Nat) : Nat → List UInt8 → Option Char × List UInt8
  | 0, rest => (some (Char.ofNat bits), rest)
  | _ + 1, [] => (none, [])
  | owed + 1, b :: rest =>
    if low ≤ b && b ≤ high then tail 0x80 0xBF (bits * 64 + b.toNat % 64) owed rest
    else (none, b :: rest)

theorem length_tail (low high : UInt8) (bits owed : Nat) (bytes : List UInt8) :
    (tail low high bits owed bytes).2.length ≤ bytes.length := by
  induction owed generalizing low high bits bytes with
  | zero => simp [tail]
  | succ owed ih =>
    cases bytes with
    | nil => simp [tail]
    | cons b rest =>
      simp only [tail]
      split
      · exact Nat.le_trans (ih ..) (by simp)
      · simp

/-- The characters of a byte sequence, with `none` for each malformed part. -/
def decode : List UInt8 → List (Option Char)
  | [] => []
  | b :: rest =>
    if b < 0x80 then some (Char.ofNat b.toNat) :: decode rest
    else
      match head? b with
      | none => none :: decode rest
      | some head =>
        let found := tail head.low head.high head.bits head.owed rest
        found.1 :: decode found.2
termination_by bytes => bytes.length
decreasing_by
  · simp
  · simp
  · exact Nat.lt_succ_of_le (length_tail ..)

def text? (bytes : List UInt8) : Option String := ((decode bytes).mapM id).map String.ofList

def lossy (bytes : List UInt8) : String :=
  .ofList ((decode bytes).map fun c => c.getD '\uFFFD')

def encode (text : String) : List UInt8 := text.toUTF8.toList

end Precedence.Text.Utf8

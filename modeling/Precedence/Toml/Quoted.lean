/-!
# Quoted texts

The four ways to quote a text: with double quotes, where a backslash starts an escape, or with
single quotes, where every character stands for itself; on one line, or over several lines between
triple quotes. Every reader below starts behind the opening quotes and gives the characters of the
text together with what follows the closing quotes.
-/

namespace Precedence.Toml

/-- A character that a text on one line may hold, quotes and backslashes apart. -/
def isPrinted (c : Char) : Bool := c = '\t' || (0x20 ≤ c.toNat && c.toNat ≠ 0x7F)

def hexDigit? (c : Char) : Option Nat :=
  if c.isDigit then some (c.toNat - '0'.toNat)
  else if 'a' ≤ c ∧ c ≤ 'f' then some (c.toNat - 'a'.toNat + 10)
  else if 'A' ≤ c ∧ c ≤ 'F' then some (c.toNat - 'A'.toNat + 10)
  else none

/-- The character whose number stands in the first `n` hexadecimal digits, and the rest. -/
def numbered? (n : Nat) (cs : List Char) : Option (Char × List Char) := do
  let digits ← (cs.take n).mapM hexDigit?
  let code := digits.foldl (fun code digit => code * 16 + digit) 0
  if digits.length = n ∧ code.isValidChar then some (Char.ofNat code, cs.drop n) else none

/-- The character that an escape stands for, read behind its backslash, and the rest. -/
def escape? : List Char → Option (Char × List Char)
  | 'b' :: rest => some ('\x08', rest)
  | 't' :: rest => some ('\t', rest)
  | 'n' :: rest => some ('\n', rest)
  | 'f' :: rest => some ('\x0C', rest)
  | 'r' :: rest => some ('\r', rest)
  | 'e' :: rest => some ('\x1B', rest)
  | '"' :: rest => some ('"', rest)
  | '\\' :: rest => some ('\\', rest)
  | 'x' :: rest => numbered? 2 rest
  | 'u' :: rest => numbered? 4 rest
  | 'U' :: rest => numbered? 8 rest
  | _ => none

theorem length_numbered? {n : Nat} {cs rest : List Char} {c : Char}
    (h : numbered? n cs = some (c, rest)) : rest.length ≤ cs.length := by
  simp only [numbered?, Option.bind_eq_bind, Option.bind_eq_some_iff] at h
  obtain ⟨_, _, h⟩ := h
  split at h
  · simp only [Option.some.injEq, Prod.mk.injEq] at h
    obtain ⟨-, rfl⟩ := h
    simp
  · simp at h

theorem length_escape? {cs rest : List Char} {c : Char} (h : escape? cs = some (c, rest)) :
    rest.length ≤ cs.length := by
  simp only [escape?] at h
  split at h
  all_goals first
    | simp only [Option.some.injEq, Prod.mk.injEq] at h
      obtain ⟨-, rfl⟩ := h
      simp
    | exact Nat.le_succ_of_le (length_numbered? h)
    | simp at h

def after (front : List Char) (read : Option (List Char × List Char)) :
    Option (List Char × List Char) :=
  read.map fun (cs, rest) => (front ++ cs, rest)

/-- A text on one line up to its closing double quote. -/
def escaped? : List Char → Option (List Char × List Char)
  | [] => none
  | '"' :: rest => some ([], rest)
  | '\\' :: rest =>
    match _h : escape? rest with
    | none => none
    | some (c, rest) => after [c] (escaped? rest)
  | c :: rest => if isPrinted c then after [c] (escaped? rest) else none
termination_by cs => cs.length
decreasing_by
  · simpa using Nat.lt_succ_of_le (length_escape? _h)
  · simp

def literal? : List Char → Option (List Char × List Char)
  | [] => none
  | '\'' :: rest => some ([], rest)
  | c :: rest => if isPrinted c then after [c] (literal? rest) else none

def skipLines : List Char → List Char
  | ' ' :: rest | '\t' :: rest | '\n' :: rest | '\r' :: '\n' :: rest => skipLines rest
  | cs => cs

theorem length_skipLines (cs : List Char) : (skipLines cs).length ≤ cs.length := by
  fun_induction skipLines cs <;> simp_all <;> omega

/-- What follows a backslash at the end of a line: the break and all blanks after it are skipped. -/
def continued? (cs : List Char) : Option (List Char) :=
  match cs.dropWhile fun c => c = ' ' || c = '\t' with
  | '\n' :: rest | '\r' :: '\n' :: rest => some (skipLines rest)
  | _ => none

theorem length_continued? {cs rest : List Char} (h : continued? cs = some rest) :
    rest.length ≤ cs.length := by
  have dropped : (cs.dropWhile fun c => c = ' ' || c = '\t').length ≤ cs.length :=
    (List.dropWhile_suffix _).length_le
  simp only [continued?] at h
  split at h
  · rename_i same
    injection h with h
    subst h
    have := length_skipLines ‹List Char›
    simp_all
    omega
  · rename_i same
    injection h with h
    subst h
    have := length_skipLines ‹List Char›
    simp_all
    omega
  · simp at h

/-- Up to two quotes before the closing ones belong to the text: what stands behind three of them
starts with those that were meant. -/
def closing (quote : Char) (cs : List Char) : List Char × List Char :=
  let extra := (cs.take 2).takeWhile (· = quote)
  (extra, cs.drop extra.length)

/-- A text over several lines up to its closing triple double quotes. -/
def escapedLines? : List Char → Option (List Char × List Char)
  | [] => none
  | '"' :: '"' :: '"' :: rest => some (closing '"' rest)
  | '\\' :: rest =>
    match _h : continued? rest with
    | some rest => escapedLines? rest
    | none =>
      match _h : escape? rest with
      | none => none
      | some (c, rest) => after [c] (escapedLines? rest)
  | '\r' :: '\n' :: rest => after ['\r', '\n'] (escapedLines? rest)
  | c :: rest => if isPrinted c || c = '\n' then after [c] (escapedLines? rest) else none
termination_by cs => cs.length
decreasing_by
  · simpa using Nat.lt_succ_of_le (length_continued? _h)
  · simpa using Nat.lt_succ_of_le (length_escape? _h)
  · simp only [List.length_cons]; omega
  · simp

def literalLines? : List Char → Option (List Char × List Char)
  | [] => none
  | '\'' :: '\'' :: '\'' :: rest => some (closing '\'' rest)
  | '\r' :: '\n' :: rest => after ['\r', '\n'] (literalLines? rest)
  | c :: rest => if isPrinted c || c = '\n' then after [c] (literalLines? rest) else none

/-- A line break right behind opening triple quotes is not part of the text. -/
def skipFirstBreak : List Char → List Char
  | '\n' :: rest | '\r' :: '\n' :: rest => rest
  | cs => cs

def quoted? : List Char → Option (List Char × List Char)
  | '"' :: '"' :: '"' :: rest => escapedLines? (skipFirstBreak rest)
  | '"' :: rest => escaped? rest
  | '\'' :: '\'' :: '\'' :: rest => literalLines? (skipFirstBreak rest)
  | '\'' :: rest => literal? rest
  | _ => none

end Precedence.Toml

/-!
# Numbers in the words of a shell

A number may stand at the front of a text, after blanks and a sign: in base 10, in base 8 after a
zero, or in base 16 after `0x`. Numbers have 64 bits; those beyond are the greatest or the least
one.

In this module and those beside it a character stands for the byte of its number, so that commands
may handle bytes that are no text.
-/

namespace Precedence.Shell

abbrev Bytes := List Char

/-- Whether one text comes before another or is the same. -/
def Bytes.le (a b : Bytes) : Bool := !List.lex b a fun x y => decide (x < y)

namespace Number

def least : Int := -Nat.pow 2 63

def greatest : Int := Nat.pow 2 63 - 1

/-- The remainder between the least and the greatest number. -/
def wrap (n : Int) : Int := n.bmod (Nat.pow 2 64)

def isBlank (c : Char) : Bool :=
  c = ' ' || c = '\t' || c = '\n' || c = '\r' || c = '\x0B' || c = '\x0C'

def digitIn? (base : Nat) (c : Char) : Option Nat :=
  let value :=
    if c.isDigit then c.toNat - '0'.toNat
    else if 'a' ≤ c ∧ c ≤ 'z' then c.toNat - 'a'.toNat + 10
    else if 'A' ≤ c ∧ c ≤ 'Z' then c.toNat - 'A'.toNat + 10
    else base
  if value < base then some value else none

/-- The number that the digits at the front stand for, and what follows them. -/
def digits (base value : Nat) : Bytes → Nat × Bytes
  | [] => (value, [])
  | c :: rest =>
    match digitIn? base c with
    | some digit => digits base (value * base + digit) rest
    | none => (value, c :: rest)

def natural? (base : Nat) (cs : Bytes) : Option Nat :=
  match cs, digits base 0 cs with
  | _ :: _, (value, []) => some value
  | _, _ => none

def decimal? (cs : Bytes) : Option Nat := natural? 10 cs

/-- A number without a sign at the front, if there is one, and what follows. With `based`, its own
front tells its base. -/
def unsigned? (based : Bool) (cs : Bytes) : Option (Nat × Bytes) :=
  let hexadecimal (rest : Bytes) : Option (Nat × Bytes) :=
    if ((rest.head?.bind (digitIn? 16)).isSome) then some (digits 16 0 rest) else none
  match cs with
  | '0' :: c :: rest =>
    let found := if based && (c = 'x' || c = 'X') then hexadecimal rest else none
    some (found.getD (if based then digits 8 0 cs else digits 10 0 cs))
  | c :: _ => if c.isDigit then some (digits 10 0 cs) else none
  | [] => none

structure Leading where
  value : Int
  /-- The number as it stands there, which may be beyond the greatest or the least one. -/
  exact : Int
  beyond : Bool
  rest : Bytes

def clip (n : Int) : Int := max least (min greatest n)

def leading? (based : Bool) (cs : Bytes) : Option Leading :=
  let cs := cs.dropWhile isBlank
  let (negative, cs) := match cs with
    | '-' :: rest => (true, rest)
    | '+' :: rest => (false, rest)
    | _ => (false, cs)
  (unsigned? based cs).map fun (n, rest) =>
    let n : Int := if negative then -(n : Int) else n
    ⟨clip n, n, n < least || greatest < n, rest⟩

/-- The number that a whole text stands for, with blanks around it. -/
def whole? (based : Bool) (cs : Bytes) : Option Int :=
  match leading? based cs with
  | some ⟨value, _, false, rest⟩ => if rest.all isBlank then some value else none
  | _ => none

def text (n : Int) : Bytes := (toString n).toList

end Number

end Precedence.Shell

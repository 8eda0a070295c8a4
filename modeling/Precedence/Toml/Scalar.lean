import Precedence.Toml.Value
/-!
# Numbers, dates and words

What an unquoted value means: a boolean, an integer in one of four bases, a number with a fraction
or an exponent, or a date, a time, or both. Underscores may stand between digits, and no decimal
number of several digits starts with a zero. `scalar?` has no answer for anything else.
-/

namespace Precedence.Toml

/-- The digits of a number in some base, without underscores, each of which stands between two
digits. -/
def digitGroup? (isDigit : Char → Bool) : List Char → Option (List Char)
  | [] => none
  | [c] => if isDigit c then some [c] else none
  | c :: '_' :: rest => if isDigit c then (digitGroup? isDigit rest).map (c :: ·) else none
  | c :: rest => if isDigit c then (digitGroup? isDigit rest).map (c :: ·) else none

def digitValue (c : Char) : Nat :=
  if c.isDigit then c.toNat - '0'.toNat
  else if 'a' ≤ c ∧ c ≤ 'f' then c.toNat - 'a'.toNat + 10
  else c.toNat - 'A'.toNat + 10

def isDigitOf (base : Nat) (c : Char) : Bool :=
  (c.isDigit || ('a' ≤ c && c ≤ 'f') || ('A' ≤ c && c ≤ 'F')) && digitValue c < base

def ofDigits (base : Nat) (digits : List Char) : Nat :=
  digits.foldl (fun n c => n * base + digitValue c) 0

def whole? (cs : List Char) : Option (List Char) :=
  match digitGroup? Char.isDigit cs with
  | some ['0'] => some ['0']
  | some ('0' :: _) => none
  | found => found

def splitSign : List Char → Bool × List Char
  | '+' :: rest => (false, rest)
  | '-' :: rest => (true, rest)
  | cs => (false, cs)

def signed (negative : Bool) (n : Nat) : Int := if negative then -(n : Int) else n

/-- Integers of more than 128 bits are refused. -/
def integer? (n : Int) : Option Scalar :=
  if -Nat.pow 2 127 ≤ n ∧ n < Nat.pow 2 128 then some (.integer n) else none

def inBase? (base : Nat) (cs : List Char) : Option Scalar :=
  (digitGroup? (isDigitOf base) cs).bind fun digits => integer? (ofDigits base digits)

def exponent? (cs : List Char) : Option Int :=
  let (negative, rest) := splitSign cs
  (digitGroup? Char.isDigit rest).map fun digits => signed negative (ofDigits 10 digits)

def isExponentMark (c : Char) : Bool := c = 'e' || c = 'E'

def float? (negative : Bool) (cs : List Char) : Option Scalar := do
  let (mantissa, mark) := cs.span (!isExponentMark ·)
  let exponent ← match mark with
    | [] => some 0
    | _ :: rest => exponent? rest
  let (front, point) := mantissa.span (· ≠ '.')
  let front ← whole? front
  let back ← match point with
    | [] => some []
    | _ :: rest => digitGroup? Char.isDigit rest
  let number : Decimal.Number :=
    .finite negative (ofDigits 10 (front ++ back)) (exponent - back.length)
  if number.overflows then none else some (.float number)

def number? (cs : List Char) : Option Scalar :=
  match cs with
  | '0' :: 'x' :: rest => inBase? 16 rest
  | '0' :: 'o' :: rest => inBase? 8 rest
  | '0' :: 'b' :: rest => inBase? 2 rest
  | _ =>
    let (negative, rest) := splitSign cs
    if rest = "inf".toList then some (.float (.infinite negative))
    else if rest = "nan".toList then some (.float .nan)
    else if rest.any fun c => c = '.' || isExponentMark c then float? negative rest
    else (whole? rest).bind fun digits => integer? (signed negative (ofDigits 10 digits))

def scalar? (cs : List Char) : Option Scalar :=
  if cs = "true".toList then some (.boolean true)
  else if cs = "false".toList then some (.boolean false)
  else
    match Moment.ofText? cs with
    | some moment => some (.moment moment)
    | none => number? cs

end Precedence.Toml

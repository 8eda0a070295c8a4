/-!
# Decimal numbers and their binary neighbours

A decimal number `digits · 10 ^ exponent` is read as the nearest number of 53 binary digits, ties
to the even one, and written with the fewest decimal digits that are read as the same binary
number, the nearest of those. All arithmetic is exact, on natural numbers.
-/

namespace Precedence.Decimal

structure Ratio where
  num : Nat
  den : Nat

def Ratio.scale (r : Ratio) (base : Nat) (power : Int) : Ratio :=
  if 0 ≤ power then ⟨r.num * Nat.pow base power.toNat, r.den⟩
  else ⟨r.num, r.den * Nat.pow base (-power).toNat⟩

def Ratio.le (a b : Ratio) : Bool := a.num * b.den ≤ b.num * a.den

def Ratio.lt (a b : Ratio) : Bool := a.num * b.den < b.num * a.den

/-- The nearest integer, the even one of two. -/
def Ratio.nearest (r : Ratio) : Nat :=
  let floor := r.num / r.den
  let rest := 2 * (r.num % r.den)
  if rest < r.den then floor
  else if r.den < rest then floor + 1
  else floor + floor % 2

/-- A positive binary number `mantissa · 2 ^ exponent` of at most 53 digits. -/
structure Binary where
  mantissa : Nat
  exponent : Int
deriving DecidableEq, Repr

/-- The least exponent of a binary number, and the greatest. -/
def Binary.minExponent : Int := -1074

def Binary.maxExponent : Int := 971

/-- The nearest binary number. There is none for zero and for what rounds to zero (`some none`), and
none at all beyond the greatest (`none`). -/
def Ratio.binary? (r : Ratio) : Option (Option Binary) :=
  if r.num = 0 then some none
  else
    let guess : Int := (Nat.log2 r.num : Int) - (Nat.log2 r.den : Int) - 53
    let fits (e : Int) : Bool := (r.scale 2 (-e)).lt ⟨Nat.pow 2 53, 1⟩
    let exponent := if fits guess then guess else if fits (guess + 1) then guess + 1 else guess + 2
    let exponent := max exponent Binary.minExponent
    let mantissa := (r.scale 2 (-exponent)).nearest
    let binary : Binary :=
      if mantissa = Nat.pow 2 53 then ⟨Nat.pow 2 52, exponent + 1⟩ else ⟨mantissa, exponent⟩
    if mantissa = 0 then some none
    else if Binary.maxExponent < binary.exponent then none
    else some (some binary)

namespace Binary

def ratio (b : Binary) : Ratio := (Ratio.mk b.mantissa 1).scale 2 b.exponent

/-- Whether a ratio is read as this binary number: it lies between the halfway points to the
neighbours, ends included when the mantissa is even. -/
def admits (b : Binary) (r : Ratio) : Bool :=
  let low : Ratio :=
    if b.mantissa = Nat.pow 2 52 && minExponent < b.exponent then
      (Ratio.mk (4 * b.mantissa - 1) 1).scale 2 (b.exponent - 2)
    else (Ratio.mk (2 * b.mantissa - 1) 1).scale 2 (b.exponent - 1)
  let high : Ratio := (Ratio.mk (2 * b.mantissa + 1) 1).scale 2 (b.exponent - 1)
  if b.mantissa % 2 = 0 then low.le r && r.le high else low.lt r && r.lt high

/-- How many decimal digits stand before the point: the least `k` with the number below
`10 ^ k`. -/
def magnitude (b : Binary) : Int :=
  let r := b.ratio
  let guess : Int := ((b.exponent + Nat.log2 b.mantissa) * 30103) / 100000
  let below (k : Int) : Bool := r.lt ((Ratio.mk 1 1).scale 10 k)
  if below (guess - 1) then guess - 1
  else if below guess then guess
  else if below (guess + 1) then guess + 1
  else guess + 2

/-- The nearest admitted multiple of `10 ^ (k - n)`, if there is one. -/
def candidate? (b : Binary) (k : Int) (n : Nat) : Option Nat :=
  let unit : Int := k - n
  let scaled := b.ratio.scale 10 (-unit)
  let lower := scaled.num / scaled.den
  let value (m : Nat) : Ratio := (Ratio.mk m 1).scale 10 unit
  let upperIsNearer := scaled.den < 2 * (scaled.num % scaled.den)
  match 0 < lower && b.admits (value lower), b.admits (value (lower + 1)) with
  | true, true => some (if upperIsNearer then lower + 1 else lower)
  | true, false => some lower
  | false, true => some (lower + 1)
  | false, false => none

/-- The shortest decimal digits that are read as `b`, and the place of the point before them: the
number is `0.d₁d₂… · 10 ^ point`. -/
def shortest (b : Binary) : List Char × Int :=
  let k := b.magnitude
  let found := (List.range 17).findSome? fun n => (b.candidate? k (n + 1)).map fun m => (m, n + 1)
  let (m, n) := found.getD (b.mantissa, 0)
  let digits := Nat.toDigits 10 m
  ((digits.reverse.dropWhile (· = '0')).reverse, k + (digits.length - n : Int))

end Binary

/-- Digits written out, with a point and at least one digit on each side of it. -/
def positional (digits : List Char) (point : Int) : List Char :=
  if point ≤ 0 then '0' :: '.' :: List.replicate (-point).toNat '0' ++ digits
  else if digits.length ≤ point.toNat then
    digits ++ List.replicate (point.toNat - digits.length) '0' ++ ['.', '0']
  else digits.take point.toNat ++ '.' :: digits.drop point.toNat

inductive Number where
  | nan
  | infinite (negative : Bool)
  | finite (negative : Bool) (digits : Nat) (exponent : Int)
deriving DecidableEq, Repr

namespace Number

/-- The ratio of a finite number, with exponents cut off far beyond the greatest and the least
binary number. -/
def magnitude (digits : Nat) (exponent : Int) : Ratio :=
  let places : Int := (Nat.toDigits 10 digits).length
  if exponent + places < -400 then ⟨0, 1⟩
  else if 400 < exponent + places then (Ratio.mk (if digits = 0 then 0 else 1) 1).scale 10 400
  else (Ratio.mk digits 1).scale 10 exponent

def overflows : Number → Bool
  | finite _ digits exponent => (magnitude digits exponent).binary?.isNone
  | _ => false

/-- The number as a binary one would be written: as many decimal digits as tell it from its
neighbours, never an exponent. -/
def text : Number → String
  | nan => "NaN"
  | infinite negative => if negative then "-inf" else "inf"
  | finite negative digits exponent =>
    let sign := if negative then "-" else ""
    match (magnitude digits exponent).binary? with
    | none => sign ++ "inf"
    | some none => sign ++ "0.0"
    | some (some b) => let (shown, point) := b.shortest; sign ++ .ofList (positional shown point)

end Number

end Precedence.Decimal

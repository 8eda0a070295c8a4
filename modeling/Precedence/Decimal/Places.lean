import Precedence.Decimal.Binary

namespace Precedence.Decimal

def paddedDigits (width n : Nat) : List Char :=
  let digits := Nat.toDigits 10 n
  List.replicate (width - digits.length) '0' ++ digits

namespace Ratio

/-- The digits before the point, and those behind it. -/
def fixed (r : Ratio) (places : Nat) : List Char × List Char :=
  let digits := paddedDigits (places + 1) (r.scale 10 places).nearest
  digits.splitAt (digits.length - places)

def magnitude (r : Ratio) : Int :=
  let guess : Int := ((Nat.log2 r.num : Int) - (Nat.log2 r.den : Int)) * 30103 / 100000
  let reaches (k : Int) : Bool := ((Ratio.mk 1 1).scale 10 k).le r
  if reaches (guess + 2) then guess + 2
  else if reaches (guess + 1) then guess + 1
  else if reaches guess then guess
  else if reaches (guess - 1) then guess - 1
  else guess - 2

/-- The digits of a ratio, so many behind the first one, and the power of ten of the first one. -/
def scientific (r : Ratio) (places : Nat) : List Char × Int :=
  if r.num = 0 then (List.replicate (places + 1) '0', 0)
  else
    let power := r.magnitude
    let digits := Nat.toDigits 10 (r.scale 10 (places - power)).nearest
    if digits.length = places + 2 then (digits.dropLast, power + 1) else (digits, power)

end Ratio

end Precedence.Decimal

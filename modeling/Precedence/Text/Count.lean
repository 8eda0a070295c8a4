namespace Precedence.Text

def countDigits? (cs : List Char) : Option Nat :=
  if cs.isEmpty || !cs.all Char.isDigit then none
  else
    let n := cs.foldl (fun n c => n * 10 + (c.toNat - '0'.toNat)) 0
    if n < Nat.pow 2 64 then some n else none

/-- One or more ASCII digits, perhaps after a plus sign, as a number of 64 bits. -/
def count? (text : String) : Option Nat :=
  match text.toList with
  | '+' :: digits => countDigits? digits
  | digits => countDigits? digits

end Precedence.Text

import Precedence.Shell.Format

namespace Precedence.Shell.Tool.Awk

inductive Value where
  | unset
  | number (n : Float)
  | text (cs : Bytes)
  /-- A text of the input, which counts as a number if it looks like one. -/
  | input (cs : Bytes)

def ofDecimal : Decimal.Number → Float
  | .nan => 0.0 / 0.0
  | .infinite negative => if negative then -1.0 / 0.0 else 1.0 / 0.0
  | .finite negative digits exponent =>
    let n := if digits = 0 then 0.0 else Float.ofScientific digits (exponent < 0) exponent.natAbs
    if negative then -n else n

def toDecimal (n : Float) : Decimal.Number :=
  let bits := n.toBits.toNat
  let negative := bits / Nat.pow 2 63 = 1
  let exponent := bits / Nat.pow 2 52 % Nat.pow 2 11
  let fraction := bits % Nat.pow 2 52
  if exponent = 2047 then if fraction = 0 then .infinite negative else .nan
  else
    let mantissa := if exponent = 0 then fraction else fraction + Nat.pow 2 52
    let power : Int := (max exponent 1 : Nat) - 1075
    if 0 ≤ power then .finite negative (mantissa * Nat.pow 2 power.toNat) 0
    else .finite negative (mantissa * Nat.pow 5 power.natAbs) power

/-- The integer that is left when the places behind the point are cut off. -/
def wholePart (n : Float) : Int :=
  match toDecimal n with
  | .finite negative digits exponent =>
    let size : Int := (digits / Nat.pow 10 exponent.natAbs : Nat)
    if negative then -size else size
  | .infinite negative => if negative then Number.least else Number.greatest
  | .nan => Number.least

def leadingNumber? (cs : Bytes) : Option (Float × Bytes) :=
  let cs := cs.dropWhile Number.isBlank
  let (negative, unsigned) := match cs with
    | '-' :: rest => (true, rest)
    | '+' :: rest => (false, rest)
    | _ => (false, cs)
  match unsigned with
  | '0' :: x :: rest =>
    if (x = 'x' || x = 'X') && ((rest.head?.bind (Number.digitIn? 16)).isSome) then
      let (n, rest) := Number.digits 16 0 rest
      let n := Float.ofNat n
      some (if negative then -n else n, rest)
    else plain cs
  | _ => plain cs
where
  plain (cs : Bytes) : Option (Float × Bytes) :=
    (decimalNumber? cs).map fun (n, rest) => (ofDecimal n, rest)

def wholeNumber? (cs : Bytes) : Option Float :=
  match leadingNumber? cs with
  | some (n, rest) => if rest.all Number.isBlank then some n else none
  | none => none

namespace Value

def toNumber : Value → Float
  | unset => 0
  | number n => n
  | text cs | input cs => ((leadingNumber? cs).map Prod.fst).getD 0

/-- The number that a value is to be compared as, if it is one. -/
def asNumber? : Value → Option Float
  | unset => some 0
  | number n => some n
  | text _ => none
  | input cs => wholeNumber? cs

def holds : Value → Bool
  | unset => false
  | number n => n != 0
  | text cs => !cs.isEmpty
  | input cs =>
    match wholeNumber? cs with
    | some n => n != 0
    | none => !cs.isEmpty

def ofBool (b : Bool) : Value := number (if b then 1 else 0)

def ofNat (n : Nat) : Value := number (Float.ofNat n)

end Value


def numberText (d : Directive) (letter : Char) (n : Float) : Bytes :=
  let whole := wholePart n
  match letter with
  | 'd' | 'i' => d.signed whole
  | 'o' => d.unsigned 8 false (whole % Nat.pow 2 64).toNat
  | 'x' => d.unsigned 16 false (whole % Nat.pow 2 64).toNat
  | 'X' => d.unsigned 16 true (whole % Nat.pow 2 64).toNat
  | 'u' => d.unsigned 10 false (whole % Nat.pow 2 64).toNat
  | _ => d.float letter (toDecimal n)

/-- The text of a number in a format with one directive. Integers of 64 bits are written as such. -/
def plainText (format : Bytes) (n : Float) : Bytes :=
  match toDecimal n with
  | .nan => "-nan".toList
  | .infinite negative => (if negative then "-inf" else "inf").toList
  | .finite negative digits exponent =>
    let scale := Nat.pow 10 exponent.natAbs
    if digits % scale = 0 && digits / scale < Nat.pow 2 (if negative then 63 else 64) then
      (if negative && digits ≠ 0 then ['-'] else []) ++ Nat.toDigits 10 (digits / scale)
    else
      match format with
      | '%' :: rest =>
        let (d, rest) := ({} : Directive).flags rest
        let (width, rest) := rest.span Char.isDigit
        let (precision, rest) := match rest with
          | '.' :: rest =>
            let (digits, rest) := rest.span Char.isDigit
            (some ((Number.decimal? digits).getD 0), rest)
          | _ => (none, rest)
        match rest with
        | letter :: rest =>
          numberText { d with width := (Number.decimal? width).getD 0, precision } letter n ++ rest
        | [] => []
      | _ => format

def Value.toText (format : Bytes) : Value → Bytes
  | unset => []
  | number n => plainText format n
  | text cs | input cs => cs

/-- The order of two values: as numbers if both are, else as texts. -/
def Value.compare (format : Bytes) (a b : Value) : Ordering :=
  match a.asNumber?, b.asNumber? with
  | some m, some n => if m < n then .lt else if n < m then .gt else .eq
  | _, _ => Ord.compare (a.toText format |>.map Char.toNat) (b.toText format |>.map Char.toNat)

/-- The text of a format with arguments, or what is wrong with them. -/
def formatText (convert : Bytes) : Nat → Bytes → List Value → Except String Bytes
  | 0, _, _ | _, [], _ => .ok []
  | fuel + 1, '%' :: '%' :: rest, values => return '%' :: (← formatText convert fuel rest values)
  | fuel + 1, '%' :: rest, values => do
    let (d, rest) := ({} : Directive).flags rest
    let measure (cs : Bytes) (values : List Value) :
        Except String (Option Int × Bytes × List Value) :=
      match cs, values with
      | '*' :: rest, value :: values => .ok (some (wholePart value.toNumber), rest, values)
      | '*' :: _, [] => .error "not enough arguments"
      | _, _ =>
        let (digits, rest) := cs.span Char.isDigit
        .ok ((Number.decimal? digits).map fun n => (n : Int), rest, values)
    let (width, rest, values) ← measure rest values
    let d := match width with
      | some n => { d with width := n.natAbs, left := d.left || n < 0 }
      | none => d
    let (precision, rest, values) ← match rest with
      | '.' :: rest => do
        let (n, rest, values) ← measure rest values
        pure (some (n.getD 0).toNat, rest, values)
      | _ => pure (none, rest, values)
    let d := { d with precision }
    let rest := rest.dropWhile fun c => c = 'l' || c = 'h'
    match rest with
    | [] => return '%' :: rest
    | letter :: rest =>
      if letter ∉ "diouxXcsaAeEfFgG".toList then
        return '%' :: letter :: (← formatText convert fuel rest values)
      match values with
      | [] => .error "not enough arguments"
      | value :: values =>
        let shown : Bytes := match letter with
          | 's' => d.text (value.toText convert)
          | 'c' =>
            let d := { d with precision := none }
            match value with
            | .number n => d.text [byte (wholePart n % 256).toNat]
            | value => d.text ((value.toText convert).take 1)
          | letter => numberText d letter value.toNumber
        return shown ++ (← formatText convert fuel rest values)
  | fuel + 1, c :: rest, values => return c :: (← formatText convert fuel rest values)

end Precedence.Shell.Tool.Awk

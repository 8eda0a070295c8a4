import Precedence.Decimal.Places
import Precedence.Shell.Number

namespace Precedence.Shell

/-- At most `n` octal digits as a number, and what follows. -/
def octals : Nat → Nat → Bytes → Nat × Bytes
  | 0, value, cs => (value, cs)
  | _ + 1, value, [] => (value, [])
  | n + 1, value, c :: rest =>
    match Number.digitIn? 8 c with
    | some digit => octals n (value * 8 + digit) rest
    | none => (value, c :: rest)

def byte (n : Nat) : Char := Char.ofNat (n % 256)

/-- The byte that stands behind a backslash, and what follows. Without one, the backslash stands for
itself. -/
def escape (cs : Bytes) : Char × Bytes :=
  match cs with
  | '\\' :: rest => ('\\', rest)
  | 'a' :: rest => ('\x07', rest)
  | 'b' :: rest => ('\x08', rest)
  | 'e' :: rest => ('\x1B', rest)
  | 'f' :: rest => ('\x0C', rest)
  | 'n' :: rest => ('\n', rest)
  | 'r' :: rest => ('\r', rest)
  | 't' :: rest => ('\t', rest)
  | 'v' :: rest => ('\x0B', rest)
  | c :: _ =>
    if (Number.digitIn? 8 c).isSome then
      let (value, rest) := octals 3 0 cs
      (byte value, rest)
    else ('\\', cs)
  | [] => ('\\', [])

/-- A text with its escapes undone, and whether it asked for an end of the output. Octal numbers
start with a zero that does not count. -/
def unescape : Nat → Bytes → Bytes × Bool
  | 0, _ => ([], false)
  | _ + 1, [] => ([], false)
  | _ + 1, '\\' :: 'c' :: _ => ([], true)
  | fuel + 1, '\\' :: '0' :: rest =>
    let (value, rest) := octals 3 0 rest
    let (text, ended) := unescape fuel rest
    (byte value :: text, ended)
  | fuel + 1, '\\' :: rest =>
    let (c, rest) := escape rest
    let (text, ended) := unescape fuel rest
    (c :: text, ended)
  | fuel + 1, c :: rest =>
    let (text, ended) := unescape fuel rest
    (c :: text, ended)

def pad (left : Bool) (fill : Char) (width : Nat) (text : Bytes) : Bytes :=
  let missing := List.replicate (width - text.length) fill
  if left then text ++ missing else missing ++ text

structure Directive where
  left : Bool := false
  zeros : Bool := false
  plus : Bool := false
  blank : Bool := false
  alternate : Bool := false
  width : Nat := 0
  precision : Option Nat := none

namespace Directive

def flags (d : Directive) : Bytes → Directive × Bytes
  | '-' :: rest => { d with left := true }.flags rest
  | '0' :: rest => { d with zeros := true }.flags rest
  | '+' :: rest => { d with plus := true }.flags rest
  | ' ' :: rest => { d with blank := true }.flags rest
  | '#' :: rest => { d with alternate := true }.flags rest
  | cs => (d, cs)

def text (d : Directive) (cs : Bytes) : Bytes :=
  pad d.left ' ' d.width ((d.precision.map cs.take).getD cs)

/-- A number with its sign, in the width of the directive. -/
def spread (d : Directive) (zeros : Bool) (sign digits : Bytes) : Bytes :=
  if zeros && !d.left then sign ++ pad false '0' (d.width - sign.length) digits
  else pad d.left ' ' d.width (sign ++ digits)

def whole (d : Directive) (sign digits : Bytes) : Bytes :=
  let digits := if digits = ['0'] && d.precision = some 0 then [] else digits
  d.spread (d.zeros && d.precision.isNone) sign (pad false '0' (d.precision.getD 1) digits)

def sign (d : Directive) (negative : Bool) : Bytes :=
  if negative then ['-'] else if d.plus then ['+'] else if d.blank then [' '] else []

def signed (d : Directive) (n : Int) : Bytes := d.whole (d.sign (n < 0)) (Nat.toDigits 10 n.natAbs)

def unsigned (d : Directive) (base : Nat) (upper : Bool) (n : Nat) : Bytes :=
  let digits := Nat.toDigits base n
  let digits := if upper then digits.map Char.toUpper else digits
  if !d.alternate || n = 0 then d.whole [] digits
  else if base = 8 then d.whole [] ('0' :: digits)
  else if base = 16 then d.whole ['0', if upper then 'X' else 'x'] digits
  else d.whole [] digits

/-- Digits in front of a point and behind it; without any behind it, the point may be left out. -/
def pointed (d : Directive) (front behind : Bytes) : Bytes :=
  if behind.isEmpty && !d.alternate then front else front ++ '.' :: behind

def power (n : Int) : Bytes :=
  'e' :: (if n < 0 then '-' else '+') :: Decimal.paddedDigits 2 n.natAbs

def withoutZeros (cs : Bytes) : Bytes := (cs.reverse.dropWhile (· = '0')).reverse

/-- The digits of a number without its sign, in the way of a letter. -/
def floatDigits (d : Directive) (letter : Char) (r : Decimal.Ratio) : Bytes :=
  let places := d.precision.getD 6
  match letter with
  | 'f' =>
    let (front, behind) := r.fixed places
    d.pointed front behind
  | 'e' =>
    let (digits, n) := r.scientific places
    d.pointed (digits.take 1) (digits.drop 1) ++ power n
  | _ =>
    let places := max places 1
    let (digits, n) := r.scientific (places - 1)
    let shown (cs : Bytes) : Bytes := if d.alternate then cs else withoutZeros cs
    if n < -4 || (places : Int) ≤ n then
      d.pointed (digits.take 1) (shown (digits.drop 1)) ++ power n
    else
      let (front, behind) := r.fixed (places - 1 - n).toNat
      d.pointed front (shown behind)

/-- The binary digits of a number in groups of four, and a power of two. -/
def hexadecimal (b : Option Decimal.Binary) : Bytes :=
  match b with
  | none => "0x0p+0".toList
  | some b =>
    let shift := 52 - Nat.log2 b.mantissa
    let mantissa := b.mantissa * Nat.pow 2 shift
    let n : Int := b.exponent - shift + 52
    let digits := withoutZeros (pad false '0' 13 (Nat.toDigits 16 (mantissa % Nat.pow 2 52)))
    "0x1".toList ++ (if digits.isEmpty then [] else '.' :: digits) ++
      'p' :: (if n < 0 then '-' else '+') :: Nat.toDigits 10 n.natAbs

def float (d : Directive) (letter : Char) (number : Decimal.Number) : Bytes :=
  let upper := letter.isUpper
  let shown (cs : Bytes) : Bytes := if upper then cs.map Char.toUpper else cs
  match number with
  | .nan => d.spread false (d.sign false) (shown "nan".toList)
  | .infinite negative => d.spread false (d.sign negative) (shown "inf".toList)
  | .finite negative digits exponent =>
    match (Decimal.Number.magnitude digits exponent).binary? with
    | none => d.spread false (d.sign negative) (shown "inf".toList)
    | some b =>
      let text := if letter.toLower = 'a' then hexadecimal b
        else d.floatDigits letter.toLower ((b.map Decimal.Binary.ratio).getD ⟨0, 1⟩)
      d.spread d.zeros (d.sign negative) (shown text)

end Directive

/-- The start of a text that is a decimal number, and what follows. -/
def decimalNumber? (cs : Bytes) : Option (Decimal.Number × Bytes) :=
  let cs := cs.dropWhile Number.isBlank
  let (negative, cs) := match cs with
    | '-' :: rest => (true, rest)
    | '+' :: rest => (false, rest)
    | _ => (false, cs)
  let spelled (word : String) : Bool := word.toList.isPrefixOf (cs.map Char.toLower)
  if spelled "infinity" then some (.infinite negative, cs.drop 8)
  else if spelled "inf" then some (.infinite negative, cs.drop 3)
  else if spelled "nan" then some (.nan, cs.drop 3)
  else
    let (front, rest) := cs.span Char.isDigit
    let (behind, rest) := match rest with
      | '.' :: more => if front.isEmpty && !(more.head?.map Char.isDigit).getD false then ([], rest)
        else more.span Char.isDigit
      | _ => ([], rest)
    if front.isEmpty && behind.isEmpty then none
    else
      let (power, rest) : Int × Bytes := match rest with
        | e :: more =>
          let (below, figures) := match more with
            | '-' :: more => (true, more)
            | '+' :: more => (false, more)
            | _ => (false, more)
          let (figures, after) := figures.span Char.isDigit
          match e = 'e' || e = 'E', Number.decimal? figures with
          | true, some n => (if below then -(n : Int) else n, after)
          | _, _ => (0, rest)
        | [] => (0, [])
      let digits := (Number.decimal? (front ++ behind)).getD 0
      some (.finite negative digits (power - behind.length), rest)

structure Printed where
  text : Bytes := []
  left : List Bytes
  /-- Whether a directive has asked for an argument. -/
  asked : Bool := false
  ended : Bool := false
  /-- What is wrong with arguments, the latest first. -/
  complaints : List String := []
  mistake : Option String := none

namespace Printed

def stopped (p : Printed) : Bool := p.ended || p.mistake.isSome

def next (p : Printed) : Option Bytes × Printed :=
  match p.left with
  | [] => (none, { p with asked := true })
  | first :: rest => (some first, { p with left := rest, asked := true })

def add (p : Printed) (text : Bytes) : Printed := { p with text := p.text ++ text }

def complain (p : Printed) (argument : Bytes) (text : String) : Printed :=
  { p with complaints := (String.ofList argument ++ ": " ++ text) :: p.complaints }

/-- Complains about an argument that is no number, or more than one. -/
def check (p : Printed) (argument rest : Bytes) (beyond : Bool) : Printed :=
  if !rest.isEmpty then
    p.complain argument
      (if rest = argument then "expected numeric value" else "not completely converted")
  else if beyond then p.complain argument "Numerical result out of range"
  else p

def number (isSigned : Bool) (p : Printed) : Int × Printed :=
  match p.next with
  | (none, p) => (0, p)
  | (some argument, p) =>
    match argument with
    | '\'' :: rest | '"' :: rest => ((rest.head?.map fun c => (c.toNat : Int)).getD 0, p)
    | _ =>
      match Number.leading? true argument with
      | none => (0, p.check argument argument false)
      | some found =>
        if isSigned then (found.value, p.check argument found.rest found.beyond)
        else
          let exact := found.exact
          let beyond := exact.natAbs ≥ Nat.pow 2 64
          (if beyond then Nat.pow 2 64 - 1 else exact % Nat.pow 2 64,
            p.check argument found.rest beyond)

def float (p : Printed) : Decimal.Number × Printed :=
  match p.next with
  | (none, p) => (.finite false 0 0, p)
  | (some argument, p) =>
    match argument with
    | '\'' :: rest | '"' :: rest => (.finite false ((rest.head?.map Char.toNat).getD 0) 0, p)
    | _ =>
      match decimalNumber? argument with
      | none => (.finite false 0 0, p.check argument argument false)
      | some (n, rest) => (n, p.check argument rest n.overflows)

/-- Prints what a directive says, by its letter. The text of the directive is for a complaint. -/
def convert (p : Printed) (d : Directive) (letter : Char) (text : Bytes) : Printed :=
  match letter with
  | 's' => let (argument, p) := p.next; p.add (d.text (argument.getD []))
  | 'c' =>
    let (argument, p) := p.next
    p.add ({ d with precision := none }.text [((argument.bind List.head?).getD '\x00')])
  | 'b' =>
    let (argument, p) := p.next
    let argument := argument.getD []
    let (shown, ended) := unescape (argument.length + 1) argument
    { p.add (d.text shown) with ended }
  | 'd' | 'i' => let (n, p) := p.number true; p.add (d.signed n)
  | 'u' => let (n, p) := p.number false; p.add (d.unsigned 10 false n.toNat)
  | 'o' => let (n, p) := p.number false; p.add (d.unsigned 8 false n.toNat)
  | 'x' => let (n, p) := p.number false; p.add (d.unsigned 16 false n.toNat)
  | 'X' => let (n, p) := p.number false; p.add (d.unsigned 16 true n.toNat)
  | 'a' | 'A' | 'e' | 'E' | 'f' | 'F' | 'g' | 'G' => let (n, p) := p.float; p.add (d.float letter n)
  | _ => { p with mistake := some (String.ofList text ++ ": invalid directive") }

/-- A width or a precision in a directive, which may come from an argument. -/
def measure (p : Printed) (cs : Bytes) : Option Int × Bytes × Printed :=
  match cs with
  | '*' :: rest => let (n, p) := p.number true; (some n, rest, p)
  | _ =>
    let (digits, rest) := cs.span Char.isDigit
    ((Number.decimal? digits).map fun n => (n : Int), rest, p)

def once : Nat → Printed → Bytes → Printed
  | 0, p, _ => p
  | _ + 1, p, [] => p
  | fuel + 1, p, '\\' :: rest =>
    let (c, rest) := escape rest
    (p.add [c]).once fuel rest
  | fuel + 1, p, '%' :: '%' :: rest => (p.add ['%']).once fuel rest
  | fuel + 1, p, '%' :: format =>
    let (d, rest) := ({} : Directive).flags format
    let (width, rest, p) := p.measure rest
    let d := match width with
      | some n => { d with width := n.natAbs, left := d.left || n < 0 }
      | none => d
    let (precision, rest, p) : Option Int × Bytes × Printed := match rest with
      | '.' :: rest => let (n, rest, p) := p.measure rest; (some (n.getD 0), rest, p)
      | _ => (none, rest, p)
    let d := { d with precision := precision.bind fun n => if n < 0 then none else some n.toNat }
    match rest with
    | [] => { p with mistake := some "missing format character" }
    | letter :: rest =>
      let p := p.convert d letter ('%' :: format.take (format.length - rest.length))
      if p.stopped then p else p.once fuel rest
  | fuel + 1, p, cs =>
    let (run, rest) := cs.span fun c => c ≠ '\\' && c ≠ '%'
    (p.add run).once fuel rest

def all (format : Bytes) : Nat → Printed → Printed
  | 0, p => p
  | fuel + 1, p =>
    let p := { p with asked := false }.once (format.length + 1) format
    if p.stopped || p.left.isEmpty || !p.asked then p else p.all format fuel

end Printed

def formatted (format : Bytes) (arguments : List Bytes) : Printed :=
  Printed.all format (arguments.length + 1) { left := arguments }

end Precedence.Shell

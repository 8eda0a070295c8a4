import Precedence.Shell.Regex
import Precedence.Shell.Tool.Basic

namespace Precedence.Shell.Tool

/-! ## Counting -/

/-- A decimal number without an exponent: its digits as one number, and how many of them stand
behind the point. -/
structure Fixed where
  value : Int
  places : Nat

def fixed? (cs : Bytes) : Option Fixed :=
  match decimalNumber? cs with
  | some (.finite negative digits exponent, []) =>
    let value : Int := if negative then -(digits : Int) else digits
    if 0 ≤ exponent then some ⟨value * Nat.pow 10 exponent.toNat, 0⟩
    else some ⟨value, (-exponent).toNat⟩
  | _ => none

def Fixed.at (f : Fixed) (places : Nat) : Int := f.value * Nat.pow 10 (places - f.places)

def Fixed.text (value : Int) (places : Nat) : Bytes :=
  let digits := Decimal.paddedDigits (places + 1) value.natAbs
  let (front, behind) := digits.splitAt (digits.length - places)
  (if value < 0 then ['-'] else []) ++ front ++ if behind.isEmpty then [] else '.' :: behind

/-- What stands in front of a directive of a format, its letter, and what stands behind it. -/
def seqFormat (format : Bytes) : Except String (Bytes × Directive × Char × Bytes) :=
  let shown := String.ofList format
  let rec front : Bytes → Bytes → Option (Bytes × Bytes)
    | before, '%' :: '%' :: rest => front ('%' :: before) rest
    | before, '%' :: rest => some (before.reverse, rest)
    | before, c :: rest => front (c :: before) rest
    | _, [] => none
  match front [] format with
  | none => .error s!"format '{shown}' has no % directive"
  | some (before, rest) =>
    let (d, rest) := ({} : Directive).flags rest
    let (width, rest) := rest.span Char.isDigit
    let (precision, rest) := match rest with
      | '.' :: more =>
        let (digits, rest) := more.span Char.isDigit; (some ((Number.decimal? digits).getD 0), rest)
      | _ => (none, rest)
    match rest with
    | letter :: after =>
      if letter ∈ "aAeEfFgG".toList then
        match front [] after with
        | none =>
          .ok (before, { d with width := (Number.decimal? width).getD 0, precision }, letter, after)
        | some _ => .error s!"format '{shown}' has too many % directives"
      else .error s!"format '{shown}' has unknown %{String.ofList [letter]} directive"
    | [] => .error s!"format '{shown}' ends in %"

/-- The options of `seq` stand in front of numbers, which may be negative. -/
def seqOptions : Nat → List Bytes → Except String (List Chosen × List Bytes)
  | 0, arguments => .ok ([], arguments)
  | fuel + 1, arguments =>
    match arguments with
    | ['-', '-'] :: rest => .ok ([], rest)
    | ('-' :: c :: more) :: rest => do
      if c.isDigit || c = '.' then return ([], arguments)
      let text (letter : Char) (name : Nat) : Except String (List Chosen × List Bytes) := do
        match more.drop name, rest with
        | [], text :: rest =>
          let (others, operands) ← seqOptions fuel rest
          return ((letter, text) :: others, operands)
        | [], [] => .error s!"option requires an argument -- '{String.ofList [c]}'"
        | text, _ =>
          let (others, operands) ← seqOptions fuel rest
          return ((letter, text) :: others, operands)
      match String.ofList (c :: more) with
      | "-equal-width" | "w" =>
        let (others, operands) ← seqOptions fuel rest
        return (('w', []) :: others, operands)
      | _ =>
        if c = 's' then text 's' 0
        else if c = 'f' then text 'f' 0
        else if "-separator=".toList.isPrefixOf (c :: more) then text 's' 10
        else if "-format=".toList.isPrefixOf (c :: more) then text 'f' 7
        else .error (if c = '-' then "unrecognized option '-" ++ String.ofList (c :: more) ++ "'"
          else s!"invalid option -- '{String.ofList [c]}'")
    | _ => .ok ([], arguments)

def seq : Tool := fun arguments =>
  match seqOptions (arguments.length + 1) arguments with
  | .error text => misuse "seq" text
  | .ok (options, operands) =>
    match operands.find? fun cs => (fixed? cs).isNone with
    | some bad => misuse "seq" s!"invalid floating point argument: '{String.ofList bad}'"
    | none =>
      let one : Fixed := ⟨1, 0⟩
      let bounds := match operands.filterMap fixed? with
        | [last] => some (one, one, last)
        | [first, last] => some (first, one, last)
        | [first, step, last] => some (first, step, last)
        | _ => none
      match bounds with
      | none =>
        match operands[3]? with
        | some extra => misuse "seq" s!"extra operand '{String.ofList extra}'"
        | none => misuse "seq" "missing operand"
      | some (first, step, last) =>
        if step.value = 0 then
          misuse "seq" s!"invalid Zero increment value: '{String.ofList ((operands[1]?).getD [])}'"
        else
          let places := max first.places step.places
          let scale := max places last.places
          let (a, d, b) := (first.at scale, step.at scale, last.at scale)
          let n := ((b - a).fdiv d + 1).toNat
          let shown (k : Nat) : Bytes :=
            let value := a + d * k
            match (last? 'f' options).map seqFormat with
            | some (.ok (before, directive, letter, after)) =>
              let number := Decimal.Number.finite (value < 0) value.natAbs (-(scale : Int))
              before ++ directive.float letter number ++ after
            | _ => Fixed.text (value / Nat.pow 10 (scale - places)) places
          let texts := (List.range (min n 1000000)).map shown
          let width := (texts.map List.length).foldl max 0
          let texts := if has 'w' options then texts.map fun cs =>
              match cs with
              | '-' :: rest => '-' :: pad false '0' (width - 1) rest
              | _ => pad false '0' width cs
            else texts
          let separator := (last? 's' options).getD ['\n']
          match (last? 'f' options).map seqFormat with
          | some (.error text) => refuse "seq" text
          | _ =>
            if texts.isEmpty then pure () else put "seq" (separator.intercalate texts ++ ['\n'])

/-! ## Expressions -/

inductive ExprMistake where
  | malformed (text : String)
  | other (text : String)

abbrev ExprReader := StateT (List Bytes × Option Bytes) (Except ExprMistake)

namespace Expr

def isInteger (cs : Bytes) : Option Int :=
  match cs with
  | '-' :: digits => (Number.decimal? digits).map fun n => -(n : Int)
  | _ => (Number.decimal? cs).map fun n => (n : Int)

def isNull (cs : Bytes) : Bool :=
  cs.isEmpty || (let digits := if cs.head? = some '-' then cs.drop 1 else cs
    !digits.isEmpty && digits.all (· = '0'))

def next : ExprReader (Option Bytes) := do
  match (← get).1 with
  | [] => return none
  | first :: rest =>
    set (rest, some first)
    return some first

def peek : ExprReader (Option Bytes) := do return (← get).1.head?

def missing {α : Type} : ExprReader α := do
  match (← get).2 with
  | some last => throw (.malformed s!"syntax error: missing argument after '{String.ofList last}'")
  | none => throw (.malformed "syntax error: missing argument")

/-- What `:` stands for: the part of the first group, or the length of the match. -/
def matched (text pattern : Bytes) : ExprReader Bytes := do
  match Regex.parse { extended := false, guarded := false } pattern with
  | .error reason => throw (.other reason)
  | .ok (regex, groups) =>
    match Regex.reaches text.toArray regex ⟨0, []⟩ with
    | reach :: _ =>
      if groups = 0 then return Number.text reach.place
      else
        match reach.groups.lookup 1 with
        | some (start, stop) => return (text.drop start).take (stop - start)
        | none => return []
    | [] => return if groups = 0 then ['0'] else []

mutual

def primary : Nat → ExprReader Bytes
  | 0 => missing
  | fuel + 1 => do
    match ← next with
    | none => missing
    | some word =>
      match String.ofList word with
      | "(" =>
        let value ← level fuel 0
        match ← next with
        | some [')'] => return value
        | some other =>
          throw (.malformed s!"syntax error: expecting ')' instead of '{String.ofList other}'")
        | none =>
          throw (.malformed s!"syntax error: expecting ')' after '{String.ofList value}'")
      | ")" => throw (.malformed "syntax error: unexpected ')'")
      | "length" =>
        if (← peek).isNone then return word
        return Number.text (← primary fuel).length
      | "match" =>
        if (← peek).isNone then return word
        let text ← primary fuel
        matched text (← primary fuel)
      | "index" =>
        if (← peek).isNone then return word
        let text ← primary fuel
        let members ← primary fuel
        return Number.text (((text.findIdx? (· ∈ members)).map (· + 1)).getD 0 : Nat)
      | "substr" =>
        if (← peek).isNone then return word
        let text ← primary fuel
        let start ← primary fuel
        let length ← primary fuel
        match isInteger start, isInteger length with
        | some start, some length =>
          if start < 1 || length < 1 then return []
          return (text.drop (start.toNat - 1)).take length.toNat
        | _, _ => return []
      | "+" =>
        match ← next with
        | some word => return word
        | none => missing
      | _ => return word

/-- Operators that bind as tightly as the level, or more. -/
def level : Nat → Nat → ExprReader Bytes
  | 0, _ => missing
  | fuel + 1, n => do
    if n = 6 then primary fuel
    else
      let first ← level fuel (n + 1)
      chain fuel n first

def chain : Nat → Nat → Bytes → ExprReader Bytes
  | 0, _, value => return value
  | fuel + 1, n, first => do
    match (← peek).map String.ofList with
    | none => return first
    | some operator =>
      let operators := match n with
        | 0 => ["|"]
        | 1 => ["&"]
        | 2 => ["<", "<=", "=", "==", "!=", ">=", ">"]
        | 3 => ["+", "-"]
        | 4 => ["*", "/", "%"]
        | _ => [":"]
      if operator ∉ operators then return first
      let _ ← next
      let second ← level fuel (n + 1)
      let number (f : Int → Int → ExprReader Bytes) : ExprReader Bytes :=
        match isInteger first, isInteger second with
        | some a, some b => f a b
        | _, _ => throw (.other "non-integer argument")
      let truth (b : Bool) : Bytes := if b then ['1'] else ['0']
      let order := match isInteger first, isInteger second with
        | some a, some b => compare a b
        | _, _ => compare first second
      let value ← match operator with
        | "|" => pure (if !isNull first then first else if isNull second then ['0'] else second)
        | "&" => pure (if isNull first || isNull second then ['0'] else first)
        | "<" => pure (truth (order = .lt))
        | "<=" => pure (truth (order ≠ .gt))
        | "=" | "==" => pure (truth (order = .eq))
        | "!=" => pure (truth (order ≠ .eq))
        | ">=" => pure (truth (order ≠ .lt))
        | ">" => pure (truth (order = .gt))
        | "+" => number fun a b => return Number.text (a + b)
        | "-" => number fun a b => return Number.text (a - b)
        | "*" => number fun a b => return Number.text (a * b)
        | "/" =>
          number fun a b => if b = 0 then throw (.other "division by zero")
            else return Number.text (a.tdiv b)
        | "%" =>
          number fun a b => if b = 0 then throw (.other "division by zero")
            else return Number.text (a.tmod b)
        | _ => matched first second
      chain fuel n value

end

end Expr

def expr : Tool := fun arguments => do
  let arguments := if arguments.head? = some "--".toList then arguments.drop 1 else arguments
  if arguments.isEmpty then misuse "expr" "missing operand" 2
  else
    match (Expr.level (16 * arguments.length + 16) 0).run (arguments, none) with
    | .error (.malformed text) => refuse "expr" text 2
    | .error (.other text) => refuse "expr" text 2
    | .ok (value, (extra :: _, _)) =>
      let _ := value
      refuse "expr" s!"syntax error: unexpected argument '{String.ofList extra}'" 2
    | .ok (value, ([], _)) =>
      put "expr" (value ++ ['\n'])
      if (← get).status = 0 then finish (if Expr.isNull value then 1 else 0)

/-! ## Paths -/

def withoutSlashes (path : Bytes) : Bytes :=
  match (path.reverse.dropWhile (· = '/')).reverse with
  | [] => if path.isEmpty then [] else ['/']
  | rest => rest

def baseOf (path suffix : Bytes) : Bytes :=
  match withoutSlashes path with
  | ['/'] => ['/']
  | path =>
    let name := (path.reverse.takeWhile (· ≠ '/')).reverse
    if suffix.length < name.length && suffix.isSuffixOf name then
      name.take (name.length - suffix.length)
    else name

def ended (options : List Chosen) (texts : List Bytes) : Bytes :=
  texts.flatMap (· ++ [if has 'z' options then '\x00' else '\n'])

def basename : Tool := fun arguments =>
  let allowed := flags [('a', "multiple"), ('z', "zero")] ++ settings [('s', "suffix")]
  withChoice "basename" allowed false 1 arguments fun options names => do
    let many := has 'a' options || has 's' options
    match names, many with
    | [], _ => misuse "basename" "missing operand"
    | names, true =>
      put "basename" (ended options (names.map fun name =>
        baseOf name ((last? 's' options).getD [])))
    | [name], false => put "basename" (ended options [baseOf name []])
    | [name, suffix], false => put "basename" (ended options [baseOf name suffix])
    | _ :: _ :: extra :: _, false => misuse "basename" s!"extra operand '{String.ofList extra}'"

def directoryOf (path : Bytes) : Bytes :=
  let path := withoutSlashes path
  let front := (path.reverse.dropWhile (· ≠ '/')).reverse
  if front.isEmpty then ['.'] else withoutSlashes front

def dirname : Tool := fun arguments =>
  withChoice "dirname" (flags [('z', "zero")]) false 1 arguments fun options names => do
    if names.isEmpty then misuse "dirname" "missing operand"
    else put "dirname" (ended options (names.map directoryOf))

def factorsFrom : Nat → Nat → Nat → List Nat
  | 0, _, n => if n ≤ 1 then [] else [n]
  | fuel + 1, d, n =>
    if n ≤ 1 then []
    else if n < d * d then [n]
    else if n % d = 0 then d :: factorsFrom fuel d (n / d)
    else factorsFrom fuel (d + 1) n

def factor : Tool := fun arguments => do
  let words ← if arguments.isEmpty then do
      match ← contents ['-'] with
      | .ok text => pure ((text.splitOnP Number.isBlank).filter (!·.isEmpty))
      | .error _ => pure []
    else pure arguments
  for word in words do
    match Number.decimal? word with
    | some n =>
      put "factor" (Number.text n ++ ':' :: (factorsFrom 10000000 2 n).flatMap
        (fun (p : Nat) => ' ' :: Number.text p) ++
        ['\n'])
    | none => refuse "factor" s!"'{String.ofList word}' is not a valid positive integer"

/-! ## Bytes as text -/

structure Shape where
  size : Nat
  width : Nat
  render : Bytes → Bytes

def littleEndian (cs : Bytes) : Nat := cs.foldr (fun c n => n * 256 + c.toNat) 0

def namedByte (c : Char) : Bytes :=
  match c with
  | '\x00' => "\\0".toList
  | '\x07' => "\\a".toList
  | '\x08' => "\\b".toList
  | '\x0C' => "\\f".toList
  | '\n' => "\\n".toList
  | '\r' => "\\r".toList
  | '\t' => "\\t".toList
  | '\x0B' => "\\v".toList
  | c => if 32 ≤ c.toNat && c.toNat < 127 then [c] else pad false '0' 3 (Nat.toDigits 8 c.toNat)

def asciiNames : List String :=
  ["nul", "soh", "stx", "etx", "eot", "enq", "ack", "bel", "bs", "ht", "nl", "vt", "ff", "cr",
    "so", "si", "dle",
    "dc1", "dc2", "dc3", "dc4", "nak", "syn", "etb", "can", "em", "sub", "esc", "fs", "gs", "rs",
      "us", "sp"]

def shape? (cs : Bytes) : Option Shape :=
  let number (kind : Char) (size : Nat) : Option Shape :=
    let bits := 8 * size
    match kind with
    | 'x' =>
      some ⟨size, 2 * size, fun cs => pad false '0' (2 * size) (Nat.toDigits 16 (littleEndian cs))⟩
    | 'o' =>
      let width := (bits + 2) / 3
      some ⟨size, width, fun cs => pad false '0' width (Nat.toDigits 8 (littleEndian cs))⟩
    | 'u' =>
      some ⟨size, (Nat.toDigits 10 (Nat.pow 2 bits - 1)).length, fun cs =>
        Nat.toDigits 10 (littleEndian cs)⟩
    | 'd' => some ⟨size, (Nat.toDigits 10 (Nat.pow 2 (bits - 1))).length + 1, fun cs =>
        Number.text ((littleEndian cs : Int).bmod (Nat.pow 2 bits))⟩
    | _ => none
  match cs with
  | ['c'] => some ⟨1, 3, fun cs => cs.flatMap namedByte⟩
  | ['a'] => some ⟨1, 3, fun cs => cs.flatMap fun c =>
      let n := c.toNat % 128
      if n = 127 then "del".toList else ((asciiNames[n]?).map String.toList).getD [Char.ofNat n]⟩
  | kind :: size =>
    match String.ofList size with
    | "" => number kind 4
    | "1" | "C" => number kind 1
    | "2" | "S" => number kind 2
    | "4" | "I" => number kind 4
    | "8" | "L" => number kind 8
    | _ => none
  | [] => none

def od : Tool := fun arguments =>
  let allowed := letters "abcdosxiv" "AtNjw" ++ flags [('v', "output-duplicates")] ++
    settings [('A', "address-radix"), ('t', "format"), ('N', "read-bytes"), ('j', "skip-bytes")]
  withChoice "od" allowed false 1 arguments fun options paths => do
    let specs := options.filterMap fun (letter, text) => match letter with
      | 't' => some text
      | 'a' => some ['a']
      | 'b' => some "o1".toList
      | 'c' => some ['c']
      | 'd' => some "u2".toList
      | 'i' => some "d4".toList
      | 'o' => some "o2".toList
      | 's' => some "d2".toList
      | 'x' => some "x2".toList
      | _ => none
    let specs := if specs.isEmpty then ["o2".toList] else specs
    match specs.find? fun spec => (shape? spec).isNone with
    | some bad => refuse "od" s!"invalid type string '{String.ofList bad}'"
    | none =>
      let shapes := specs.filterMap shape?
      let unit := shapes.foldl (fun n shape => max n ((shape.width + shape.size) / shape.size)) 0
      let address (n : Nat) : Bytes := match (last? 'A' options).map String.ofList with
        | some "n" => []
        | some "x" => pad false '0' 6 (Nat.toDigits 16 n)
        | some "d" => pad false '0' 7 (Nat.toDigits 10 n)
        | _ => pad false '0' 7 (Nat.toDigits 8 n)
      let texts ← gather "od" paths
      let skipped := ((last? 'j' options).bind scaled?).getD 0
      let text := texts.flatten.drop skipped
      let text := match (last? 'N' options).bind scaled? with
        | some n => text.take n
        | none => text
      let width := ((last? 'w' options).bind Number.decimal?).getD 16
      let rec groups (size : Nat) : Nat → Bytes → List Bytes
        | 0, _ => []
        | _, [] => []
        | fuel + 1, cs => cs.take size :: groups size fuel (cs.drop size)
      let rows := groups (max 1 width) (text.length + 1) text
      let row (cs : Bytes) (n : Nat) : Bytes :=
        shapes.zipIdx.flatMap fun (shape, k) =>
          let front := address (n * width + skipped)
          let front := if k = 0 then front else List.replicate front.length ' '
          let cells := groups shape.size (cs.length + 1) cs
          let alone := shapes.length = 1
          front ++ (cells.flatMap fun cell =>
            pad false ' ' (if alone then shape.width + 1 else unit * shape.size)
              (shape.render cell)) ++ ['\n']
      let shown := rows.zipIdx.foldl (fun (shown, last, starred) (cs, n) =>
        if last = some cs && cs.length = width && !has 'v' options then
          (if starred then shown else "*\n".toList :: shown, last, true)
        else (row cs n :: shown, some cs, false)) (([] : List Bytes), (none : Option Bytes), false)
      let last := address (text.length + skipped)
      put "od" (shown.1.reverse.flatten ++ if last.isEmpty then [] else last ++ ['\n'])

def base64Digits : Array Char :=
  "ABCDEFGHIJKLMNOPQRSTUVWXYZabcdefghijklmnopqrstuvwxyz0123456789+/".toList.toArray

def encode64 : Bytes → Bytes
  | a :: b :: c :: rest =>
    let n := a.toNat * 65536 + b.toNat * 256 + c.toNat
    digit (n / 262144) :: digit (n / 4096) :: digit (n / 64) :: digit n :: encode64 rest
  | [a, b] =>
    let n := a.toNat * 65536 + b.toNat * 256
    [digit (n / 262144), digit (n / 4096), digit (n / 64), '=']
  | [a] =>
    let n := a.toNat * 65536
    [digit (n / 262144), digit (n / 4096), '=', '=']
  | [] => []
where
  /-- The digit for the last six bits of a number. -/
  digit (n : Nat) : Char := (base64Digits[n % 64]?).getD 'A'

def decode64 (text : Bytes) : Option Bytes :=
  let digits := text.filter (· ≠ '\n')
  let rec go : Bytes → Option Bytes
    | [] => some []
    | a :: b :: '=' :: '=' :: [] => do
      let n := (← base64Digits.toList.idxOf? a) * 64 + (← base64Digits.toList.idxOf? b)
      return [byte (n / 16)]
    | a :: b :: c :: '=' :: [] => do
      let n := ((← base64Digits.toList.idxOf? a) * 64 + (← base64Digits.toList.idxOf? b)) * 64 +
        (← base64Digits.toList.idxOf? c)
      return [byte (n / 1024), byte (n / 4)]
    | a :: b :: c :: d :: rest => do
      let n := (((← base64Digits.toList.idxOf? a) * 64 + (← base64Digits.toList.idxOf? b)) * 64 +
        (← base64Digits.toList.idxOf? c)) * 64 + (← base64Digits.toList.idxOf? d)
      return byte (n / 65536) :: byte (n / 256) :: byte n :: (← go rest)
    | _ => none
  go digits

def base64 : Tool := fun arguments =>
  let allowed := flags [('d', "decode"), ('i', "ignore-garbage")] ++ settings [('w', "wrap")]
  withChoice "base64" allowed false 1 arguments fun options paths => do
    let width := ((last? 'w' options).bind Number.decimal?).getD 76
    for text in ← gather "base64" (paths.take 1) do
      if has 'd' options then
        match decode64 text with
        | some decoded => put "base64" decoded
        | none => refuse "base64" "invalid input"
      else
        let encoded := encode64 text
        let rec wrapped : Nat → Bytes → Bytes
          | 0, cs => cs
          | _, [] => []
          | fuel + 1, cs => cs.take width ++ '\n' :: wrapped fuel (cs.drop width)
        put "base64" (if width = 0 then encoded else wrapped (encoded.length + 1) encoded)

end Precedence.Shell.Tool

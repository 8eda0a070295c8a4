import Precedence.Shell.Tool.Basic

namespace Precedence.Shell.Tool

structure KeyStyle where
  numeric : Bool := false
  general : Bool := false
  human : Bool := false
  version : Bool := false
  month : Bool := false
  caseless : Bool := false
  dictionary : Bool := false
  printable : Bool := false
  blanks : Bool := false
  reversed : Bool := false
deriving DecidableEq

namespace KeyStyle

def add (style : KeyStyle) : Char → Option KeyStyle
  | 'n' => some { style with numeric := true }
  | 'g' => some { style with general := true }
  | 'h' => some { style with human := true }
  | 'V' => some { style with version := true }
  | 'M' => some { style with month := true }
  | 'f' => some { style with caseless := true }
  | 'd' => some { style with dictionary := true }
  | 'i' => some { style with printable := true }
  | 'b' => some { style with blanks := true }
  | 'r' => some { style with reversed := true }
  | _ => none

end KeyStyle

/-- A part of a line: from a character of a field on, up to a character of another one. -/
structure Key where
  startField : Nat := 0
  startChar : Nat := 0
  skipStart : Bool := false
  /-- The last field with its last character; zero is the end of the field. -/
  stop : Option (Nat × Nat) := none
  skipStop : Bool := false
  style : KeyStyle := {}

def isSortBlank (c : Char) : Bool := c = ' ' || c = '\t'

def skipFields (separator : Option Char) : Nat → Bytes → Bytes
  | 0, cs => cs
  | n + 1, cs =>
    match separator with
    | some c => skipFields separator n ((cs.dropWhile (· ≠ c)).drop 1)
    | none => skipFields separator n ((cs.dropWhile isSortBlank).dropWhile (!isSortBlank ·))

namespace Key

def part (key : Key) (separator : Option Char) (line : Bytes) : Bytes :=
  let start := skipFields separator key.startField line
  let start := if key.skipStart then start.dropWhile isSortBlank else start
  let start := start.drop key.startChar
  match key.stop with
  | none => start
  | some (field, char) =>
    let before := skipFields separator (if char = 0 then field + 1 else field) line
    let rest :=
      if char = 0 then
        -- The separator behind the last field is not part of it.
        let used := line.length - before.length
        match separator with
        | some c =>
          let last := line.drop (used - 1)
          if used ≠ 0 && last.head? = some c then last else before
        | none => before
      else (if key.skipStop then before.dropWhile isSortBlank else before).drop char
    start.take (start.length - rest.length)

end Key

/-- The sign, the digits before the point without zeros at the front, and those behind it without
zeros at the end, of a number at the front of a text. -/
def plainNumber (cs : Bytes) : Bool × Bytes × Bytes × Bytes :=
  let cs := cs.dropWhile isSortBlank
  let (negative, cs) := match cs with
    | '-' :: rest => (true, rest)
    | _ => (false, cs)
  let (whole, rest) := cs.span Char.isDigit
  let (fraction, rest) := match rest with
    | '.' :: more => more.span Char.isDigit
    | _ => ([], rest)
  let whole := whole.dropWhile (· = '0')
  let fraction := (fraction.reverse.dropWhile (· = '0')).reverse
  (negative && !(whole.isEmpty && fraction.isEmpty), whole, fraction, rest)

def comparePlain (a b : Bytes) : Ordering :=
  let (belowA, wholeA, fractionA, _) := plainNumber a
  let (belowB, wholeB, fractionB, _) := plainNumber b
  let magnitude := (compare wholeA.length wholeB.length).then
    ((compare wholeA wholeB).then (compare fractionA fractionB))
  match belowA, belowB with
  | true, false => .lt
  | false, true => .gt
  | false, false => magnitude
  | true, true => magnitude.swap

def unitRank (cs : Bytes) : Nat :=
  match cs with
  | c :: _ => (("KMGTPEZY".toList.idxOf? (if c = 'k' then 'K' else c)).map (· + 1)).getD 0
  | [] => 0

def compareHuman (a b : Bytes) : Ordering :=
  let (belowA, wholeA, fractionA, restA) := plainNumber a
  let (belowB, wholeB, fractionB, restB) := plainNumber b
  let zero (whole fraction : Bytes) : Bool := whole.isEmpty && fraction.isEmpty
  let rank (below : Bool) (whole fraction rest : Bytes) : Int :=
    let size : Int := unitRank rest + 1
    if zero whole fraction then 0 else if below then -size else size
  (compare (rank belowA wholeA fractionA restA) (rank belowB wholeB fractionB restB)).then
    (comparePlain a b)

/-- A number as a fraction, if there is one at the front of a text. -/
def generalNumber? (cs : Bytes) : Option (Int × Nat) :=
  match decimalNumber? cs with
  | some (.finite negative digits exponent, _) =>
    let r := Decimal.Number.magnitude digits exponent
    some (if negative then -(r.num : Int) else r.num, r.den)
  | _ => none

def compareGeneral (a b : Bytes) : Ordering :=
  match generalNumber? a, generalNumber? b with
  | none, none => .eq
  | none, some _ => .lt
  | some _, none => .gt
  | some (n, d), some (m, e) => compare (n * e) (m * d)

def compareVersions : Nat → Bytes → Bytes → Ordering
  | 0, _, _ => .eq
  | fuel + 1, a, b =>
    let rank (c : Char) : Nat := if c.isAlpha then c.toNat else if c = '~' then 0 else c.toNat + 256
    let (textA, restA) := a.span (!Char.isDigit ·)
    let (textB, restB) := b.span (!Char.isDigit ·)
    let (numberA, restA) := restA.span Char.isDigit
    let (numberB, restB) := restB.span Char.isDigit
    let value (cs : Bytes) : Nat := (Number.decimal? cs).getD 0
    match compare (textA.map rank) (textB.map rank), compare (value numberA) (value numberB) with
    | .eq, .eq =>
      if a.isEmpty || b.isEmpty then compare a.length b.length else compareVersions fuel restA restB
    | .eq, other => other
    | other, _ => other

def monthRank (cs : Bytes) : Nat :=
  let name := String.ofList (((cs.dropWhile isSortBlank).take 3).map Char.toUpper)
  let months :=
    ["JAN", "FEB", "MAR", "APR", "MAY", "JUN", "JUL", "AUG", "SEP", "OCT", "NOV", "DEC"]
  ((months.idxOf? name).map (· + 1)).getD 0

namespace KeyStyle

def compare (style : KeyStyle) (a b : Bytes) : Ordering :=
  let prepared (cs : Bytes) : Bytes :=
    let cs := if style.dictionary then cs.filter fun c => c.isAlphanum || isSortBlank c
      else if style.printable then cs.filter fun c => 32 ≤ c.toNat && c.toNat < 127 else cs
    if style.caseless then cs.map Char.toUpper else cs
  let result :=
    if style.numeric then comparePlain a b
    else if style.general then compareGeneral a b
    else if style.human then compareHuman a b
    else if style.month then Ord.compare (monthRank a) (monthRank b)
    else if style.version then compareVersions (a.length + b.length + 1) a b
    else Ord.compare (prepared a) (prepared b)
  if style.reversed then result.swap else result

end KeyStyle

/-- A key as it is written: `FIELD[.CHAR][STYLE][,FIELD[.CHAR][STYLE]]`. -/
def key? (cs : Bytes) : Except String Key := do
  let shown := String.ofList cs
  let position (cs : Bytes) (what : String) : Except String (Nat × Option Nat × Bytes × Bytes) := do
    let (digits, rest) := cs.span Char.isDigit
    match Number.decimal? digits with
    | none => .error s!"{what}: invalid count at start of '{String.ofList cs}'"
    | some field =>
      if field = 0 then .error s!"field number is zero: invalid field specification '{shown}'"
      let (char, rest) ← match rest with
        | '.' :: more =>
          let (digits, after) := more.span Char.isDigit
          match Number.decimal? digits with
          | some n => pure (some n, after)
          | none =>
            .error s!"invalid number after '.': invalid count at start of '{String.ofList more}'"
        | _ => pure (none, rest)
      let (styles, rest) := rest.span (· ≠ ',')
      return (field, char, styles, rest)
  let bad : Except String Key :=
    .error s!"stray character in field spec: invalid field specification '{shown}'"
  let (field, char, styles, rest) ← position cs "invalid number at field start"
  if char = some 0 then
    .error s!"character offset is zero: invalid field specification '{shown}'"
  match styles.foldlM KeyStyle.add ({} : KeyStyle) with
  | none => bad
  | some style =>
    let key : Key :=
      { startField := field - 1, startChar := char.getD 1 - 1, style, skipStart := style.blanks }
    match rest with
    | ',' :: more =>
      let (field, char, styles, rest) ← position more "invalid number after ','"
      match styles.foldlM KeyStyle.add style, rest with
      | some style, [] =>
        return { key with stop := some (field - 1, char.getD 0), style, skipStop := 'b' ∈ styles }
      | _, _ => bad
    | _ => return key

def sort : Tool := fun arguments =>
  let allowed := letters "bdfgiMhnRrVcCmsuz" "ktoST" ++
    flags [('n', "numeric-sort"), ('r', "reverse"), ('u', "unique"), ('f', "ignore-case"),
      ('s', "stable"), ('c', "check"), ('V', "version-sort"), ('h', "human-numeric-sort"),
      ('g', "general-numeric-sort"), ('M', "month-sort")] ++
    settings [('k', "key"), ('t', "field-separator"), ('o', "output")]
  withChoice "sort" allowed false 2 arguments fun options paths => do
    let style :=
      (options.filterMap fun (letter, _) => KeyStyle.add {} letter |>.map fun _ => letter).foldl
      (fun style letter => (style.add letter).getD style) ({} : KeyStyle)
    let found := (options.filter (·.1 = 'k')).mapM fun (_, text) => key? text
    match found with
    | .error text => refuse "sort" text 2
    | .ok keys =>
      let separator := match last? 't' options with
        | some ['\\', '0'] => some '\x00'
        | some (c :: _) => some c
        | _ => none
      let keys := keys.map fun key =>
        if key.style = {} then
          { key with style, skipStart := style.blanks, skipStop := style.blanks }
        else key
      let compared (a b : Bytes) : Ordering :=
        if keys.isEmpty then
          let part (cs : Bytes) : Bytes := if style.blanks then cs.dropWhile isSortBlank else cs
          style.compare (part a) (part b)
        else
          keys.foldl (fun result key =>
            result.then (key.style.compare (key.part separator a) (key.part separator b))) .eq
      let plain := keys.isEmpty && style = { ({} : KeyStyle) with reversed := style.reversed }
      let whole (a b : Bytes) : Ordering :=
        if has 's' options || has 'u' options || plain then compared a b
        else (compared a b).then
          (if style.reversed then (Ord.compare a b).swap else Ord.compare a b)
      let texts ← gather "sort" paths
        (fun path trouble =>
          let what := if trouble = .isDirectory then "read failed" else "cannot read"
          s!"{what}: {path}: {trouble.text}") 2
      let lines := texts.flatMap lines
      if (← get).status ≠ 0 then return
      if has 'c' options || has 'C' options then
        let bad := (lines.zip (lines.drop 1)).zipIdx.find? fun ((a, b), _) =>
          whole a b = .gt || (has 'u' options && compared a b = .eq)
        match bad with
        | some ((_, line), n) =>
          let path := match paths with
            | path :: _ => String.ofList path
            | [] => "-"
          if has 'C' options then finish 1
          else refuse "sort" s!"{path}:{n + 2}: disorder: {String.ofList line}"
        | none => pure ()
      else
        let sorted := lines.mergeSort fun a b => whole a b ≠ .gt
        let sorted := if has 'u' options then
            (sorted.splitBy fun a b => compared a b = .eq).filterMap List.head? else sorted
        let text := unlines sorted
        match last? 'o' options with
        | none => put "sort" text
        | some path =>
          match ← openFile .write path with
          | .ok stream =>
            writeTo stream text
          | .error trouble => refuse "sort" s!"open failed: {String.ofList path}: {trouble.text}" 2

end Precedence.Shell.Tool

import Precedence.Shell.Regex
import Precedence.Shell.Tool.Basic

namespace Precedence.Shell.Tool.Sed

inductive Address where
  | line (n : Nat)
  | last
  /-- A pattern; none is the one that was used last. -/
  | pattern (regex : Option Regex)
  /-- Every so many lines from a line on. -/
  | every (first step : Nat)
  /-- So many lines behind the first address. -/
  | behind (n : Nat)
  /-- Up to the next line whose number is a multiple. -/
  | multiple (n : Nat)

inductive Filling where
  | text (cs : Bytes)
  /-- A group of the match; zero is the whole match. -/
  | group (n : Nat)
  /-- From here on, letters are in upper case or lower case, or as they are; with `once`, only the
  next one. -/
  | letters (upper : Option Bool) (once : Bool)

inductive Edit where
  | substitute (regex : Option Regex) (filling : List Filling) (global : Bool) (nth : Nat)
      (print : Bool) (file : Option Bytes)
  | mapBytes (source target : Bytes)
  | append (text : Bytes)
  | insert (text : Bytes)
  | change (text : Bytes)
  | print | printFirst | delete | deleteFirst
  | next | nextAppended
  | hold | holdAppended | fetch | fetchAppended | exchange
  | number | list
  | quit (status : Nat) (silent : Bool)
  | readFile (path : Bytes)
  | writeFile (path : Bytes)
  | jump (label : Bytes)
  | jumpIf (label : Bytes) (substituted : Bool)
  | label (name : Bytes)
  | zap
  /-- The commands up to the brace that closes them. -/
  | block
  | closing

structure Command where
  first : Option Address
  second : Option Address
  negated : Bool
  edit : Edit

/-! ## Reading -/

structure Script where
  rest : Bytes
  size : Nat
  extended : Bool

abbrev Reader := StateT Script (Except String)

def fail {α : Type} (text : String) : Reader α := do
  let s ← get
  throw s!"-e expression #1, char {s.size - s.rest.length}: {text}"

def peek : Reader (Option Char) := do return (← get).rest.head?

def skip : Reader Unit := modify fun s => { s with rest := s.rest.drop 1 }

def skipBlanks : Reader Unit :=
  modify fun s => { s with rest := s.rest.dropWhile fun c => c = ' ' || c = '\t' }

def digits : Reader (Option Nat) := do
  let (digits, rest) := (← get).rest.span Char.isDigit
  modify fun s => { s with rest }
  return Number.decimal? digits

/-- The text up to a delimiter that no backslash stands in front of, and not inside brackets where
`brackets` is set. -/
def upTo (delimiter : Char) (brackets : Bool) : Nat → Bytes → Option (Bytes × Bytes)
  | 0, _ => none
  | _, [] => none
  | fuel + 1, '\\' :: c :: rest =>
    (upTo delimiter brackets fuel rest).map fun (text, rest) =>
      (if c = delimiter && c ≠ '\n' then
        (if c ∈ "*.[]^$+?|(){}".toList && brackets then '\\' :: c :: text else c :: text)
      else '\\' :: c :: text, rest)
  | fuel + 1, c :: rest =>
    if c = delimiter then some ([], rest)
    else if c = '\n' && brackets then none
    else if c = '[' && brackets then
      -- A bracket at the front of brackets does not close them.
      let (front, rest) := match rest with
        | '^' :: ']' :: rest => (['^', ']'], rest)
        | ']' :: rest => ([']'], rest)
        | '^' :: rest => (['^'], rest)
        | _ => ([], rest)
      let (inner, rest) := rest.span (· ≠ ']')
      match rest with
      | _ :: rest =>
        (upTo delimiter brackets fuel rest).map fun (text, rest) =>
          ('[' :: front ++ inner ++ ']' :: text, rest)
      | [] => none
    else (upTo delimiter brackets fuel rest).map fun (text, rest) => (c :: text, rest)

def regex? (text : Bytes) (caseless : Bool) : Reader (Option Regex × Nat) := do
  if text.isEmpty then return (none, 9)
  match Regex.parse { extended := (← get).extended, caseless, strict := true } text with
  | .ok (regex, groups) => return (some regex, groups)
  | .error text => if text = Regex.bareClass then throw text else fail text

def pattern (delimiter : Char) : Reader Address := do
  match upTo delimiter true (← get).rest.length (← get).rest with
  | none =>
    modify fun s => { s with rest := [] }
    fail "unterminated address regex"
  | some (text, rest) =>
    let caseless := rest.head? = some 'I'
    modify fun s => { s with rest := if caseless then rest.drop 1 else rest }
    return .pattern (← regex? text caseless).1

def address? : Reader (Option Address) := do
  match ← peek with
  | some '$' => skip; return some .last
  | some '/' => skip; return some (← pattern '/')
  | some '\\' =>
    skip
    match ← peek with
    | some c => skip; return some (← pattern c)
    | none => return none
  | some c =>
    if c.isDigit then
      let n := (← digits).getD 0
      if (← peek) = some '~' then
        skip
        return some (.every n ((← digits).getD 0))
      return some (.line n)
    else return none
  | none => return none

def secondAddress? : Reader (Option Address) := do
  match ← peek with
  | some '+' => skip; return some (.behind ((← digits).getD 0))
  | some '~' => skip; return some (.multiple ((← digits).getD 0))
  | _ => address?

/-- The character that a letter behind a backslash stands for. -/
def escaped : Char → Char
  | 'a' => '\x07'
  | 'f' => '\x0C'
  | 'n' => '\n'
  | 'r' => '\r'
  | 't' => '\t'
  | 'v' => '\x0B'
  | c => c

def fillings : Nat → Bytes → List Filling
  | 0, _ => []
  | _, [] => []
  | fuel + 1, '&' :: rest => .group 0 :: fillings fuel rest
  | fuel + 1, '\\' :: c :: rest =>
    let first : Filling :=
      if c.isDigit then .group (c.toNat - '0'.toNat)
      else
        match c with
        | 'U' => .letters (some true) false
        | 'L' => .letters (some false) false
        | 'u' => .letters (some true) true
        | 'l' => .letters (some false) true
        | 'E' => .letters none false
        | c => .text [escaped c]
    first :: fillings fuel rest
  | fuel + 1, c :: rest => .text [c] :: fillings fuel rest

structure Flags where
  global : Bool := false
  nth : Nat := 1
  print : Bool := false
  caseless : Bool := false
  file : Option Bytes := none

/-- What may follow a command: nothing but blanks up to the end of it. -/
def finished : Reader Unit := do
  skipBlanks
  match ← peek with
  | none | some '}' | some '#' => pure ()
  | some '\n' | some ';' => skip
  | some _ =>
    skip
    fail "extra characters after command"

def restOfLine : Reader Bytes := do
  skipBlanks
  let (line, rest) := (← get).rest.span (· ≠ '\n')
  modify fun s => { s with rest := rest.drop 1 }
  return line

def labelName : Reader Bytes := do
  skipBlanks
  let (name, rest) := (← get).rest.span fun c => c ≠ '\n' && c ≠ ';'
  modify fun s => { s with rest := rest.drop 1 }
  return (name.reverse.dropWhile Number.isBlank).reverse

def flags : Nat → Flags → Reader Flags
  | 0, found => return found
  | fuel + 1, found => do
    match ← peek with
    | some 'g' => skip; flags fuel { found with global := true }
    | some 'p' => skip; flags fuel { found with print := true }
    | some 'i' | some 'I' => skip; flags fuel { found with caseless := true }
    | some 'm' | some 'M' | some 'e' => skip; flags fuel found
    | some 'w' =>
      skip
      return { found with file := some (← restOfLine) }
    | some c =>
      if c.isDigit then
        let n := (← digits).getD 0
        if n = 0 then fail "number option to \x60s' command may not be zero"
        flags fuel { found with nth := n }
      else if c = '}' || c = '#' || c = '\n' || c = ';' || c = ' ' || c = '\t' then
        finished
        return found
      else
        skip
        fail "unknown option to \x60s'"
    | none => return found

/-- The text of `a`, `i` or `c`, whose lines go on behind a backslash. -/
def textBlock : Reader Bytes := do
  skipBlanks
  match ← peek with
  | none => fail "expected \\ after \x60a', \x60c' or \x60i'"
  | some '\\' =>
    skip
    match (← get).rest.dropWhile fun c => c = ' ' || c = '\t' with
    | '\n' :: rest => modify fun s => { s with rest }
    | _ => pure ()
  | _ => pure ()
  let rec go : Nat → Bytes → Bytes × Bytes
    | 0, rest => ([], rest)
    | _, [] => ([], [])
    | fuel + 1, '\\' :: c :: rest =>
      let (text, rest) := go fuel rest
      (escaped c :: text, rest)
    | fuel + 1, c :: rest =>
      if c = '\n' then ([], rest)
      else
        let (text, rest) := go fuel rest
        (c :: text, rest)
  let (text, rest) := go ((← get).rest.length + 1) (← get).rest
  modify fun s => { s with rest }
  return text ++ ['\n']

def edit (letter : Char) : Reader Edit := do
  let plain (found : Edit) : Reader Edit := do
    finished
    return found
  match letter with
  | 's' =>
    match ← peek with
    | none => fail "unterminated \x60s' command"
    | some delimiter =>
      skip
      let s ← get
      let unterminated : Reader Edit := do
        modify fun s => { s with rest := [] }
        fail "unterminated \x60s' command"
      match upTo delimiter true s.rest.length s.rest with
      | none => unterminated
      | some (source, rest) =>
        match upTo delimiter false rest.length rest with
        | none => unterminated
        | some (target, rest) =>
          modify fun s => { s with rest }
          let found ← flags (rest.length + 1) {}
          let (regex, groups) ← regex? source found.caseless
          let filling := fillings (target.length + 1) target
          let used := filling.foldl (fun n part => match part with
            | .group k => max n k
            | _ => n) 0
          if groups < used then fail s!"invalid reference \\{used} on \x60s' command's RHS"
          return .substitute regex filling found.global found.nth found.print found.file
  | 'y' =>
    match ← peek with
    | none => fail "unterminated \x60y' command"
    | some delimiter =>
      skip
      let s ← get
      match (upTo delimiter false s.rest.length s.rest).bind fun (source, rest) =>
          (upTo delimiter false rest.length rest).map fun (target, rest) =>
            (source, target, rest) with
      | none =>
        modify fun s => { s with rest := [] }
        fail "unterminated \x60y' command"
      | some (source, target, rest) =>
        modify fun s => { s with rest }
        let rec plainText : Bytes → Bytes
          | '\\' :: 'n' :: rest => '\n' :: plainText rest
          | '\\' :: 't' :: rest => '\t' :: plainText rest
          | '\\' :: c :: rest => c :: plainText rest
          | c :: rest => c :: plainText rest
          | [] => []
        let (source, target) := (plainText source, plainText target)
        if source.length ≠ target.length then
          fail "strings for \x60y' command are different lengths"
        finished
        return .mapBytes source target
  | 'a' => return .append (← textBlock)
  | 'i' => return .insert (← textBlock)
  | 'c' => return .change (← textBlock)
  | 'p' => plain .print
  | 'P' => plain .printFirst
  | 'd' => plain .delete
  | 'D' => plain .deleteFirst
  | 'n' => plain .next
  | 'N' => plain .nextAppended
  | 'h' => plain .hold
  | 'H' => plain .holdAppended
  | 'g' => plain .fetch
  | 'G' => plain .fetchAppended
  | 'x' => plain .exchange
  | '=' => plain .number
  | 'l' => plain .list
  | 'z' => plain .zap
  | 'q' | 'Q' =>
    skipBlanks
    let n := (← digits).getD 0
    plain (.quit n (letter = 'Q'))
  | 'r' => return .readFile (← restOfLine)
  | 'w' => return .writeFile (← restOfLine)
  | 'b' => return .jump (← labelName)
  | 't' => return .jumpIf (← labelName) true
  | 'T' => return .jumpIf (← labelName) false
  | ':' =>
    let name ← labelName
    if name.isEmpty then fail "\":\" lacks a label"
    return .label name
  | '{' => return .block
  | '}' => plain .closing
  | c => fail s!"unknown command: \x60{String.ofList [c]}'"

def commands : Nat → Nat → Reader (List Command)
  | 0, _ => return []
  | fuel + 1, depth => do
    modify fun s => { s with rest := s.rest.dropWhile fun c => Number.isBlank c || c = ';' }
    match ← peek with
    | none =>
      if depth ≠ 0 then throw "-e expression #1, char 0: unmatched \x60\x7b'"
      return []
    | some '#' =>
      modify fun s => { s with rest := s.rest.dropWhile (· ≠ '\n') }
      commands fuel depth
    | some _ =>
      let first ← address?
      let second ← if first.isSome then do
          skipBlanks
          if (← peek) = some ',' then
            skip
            skipBlanks
            match ← secondAddress? with
            | some found => pure (some found)
            | none => fail "unexpected \x60,'"
          else pure none
        else pure none
      skipBlanks
      let negated := (← peek) = some '!'
      if negated then
        skip
        skipBlanks
      match ← peek with
      | none => fail "missing command"
      | some letter =>
        skip
        match letter, depth with
        | '}', 0 => fail "unexpected \x60\x7d'"
        | _, _ =>
          let found ← edit letter
          let depth := match letter with
            | '{' => depth + 1
            | '}' => depth - 1
            | _ => depth
          return ⟨first, second, negated, found⟩ :: (← commands fuel depth)

def parse (extended : Bool) (text : Bytes) : Except String (List Command) := do
  let (found, _) ← commands (text.length + 2) 0 |>.run ⟨text, text.length, extended⟩
  return found

/-! ## Running -/

structure Course where
  input : List Bytes
  ended : Bool := true
  line : Nat := 0
  space : Bytes := []
  held : Bytes := []
  output : Array Bytes := #[]
  appended : List Bytes := []
  substituted : Bool := false
  /-- The commands with two addresses that are between them, each with the line it ends with, if
  that is known. -/
  active : List (Nat × Option Nat) := []
  regex : Option Regex := none
  files : List (Bytes × Bytes) := []
  status : Option Nat := none

inductive Step where
  | goOn
  | goTo (place : Nat)
  /-- The end of the turn; with `quiet`, the line is not printed. -/
  | turn (quiet : Bool)
  /-- Another turn with what is left of the lines at hand. -/
  | again
  | stop (quiet : Bool)

namespace Course

def isLast (c : Course) : Bool := c.input.isEmpty

/-- Prints. A line that has no end gets one before anything else is printed. -/
def say (c : Course) (text : Bytes) : Course :=
  let unended := match c.output.back?.bind List.getLast? with
    | none | some '\n' => false
    | some _ => true
  { c with output := (if unended then c.output.push ['\n'] else c.output).push text }

/-- Prints the lines at hand. The last line ends as it did in the input. -/
def sayLine (c : Course) (text : Bytes) : Course :=
  c.say (if c.isLast && !c.ended then text else text ++ ['\n'])

def holds (c : Course) : Address → Bool × Course
  | .line n => (c.line = n, c)
  | .last => (c.isLast, c)
  | .every first step =>
    (if step = 0 then c.line = first else first ≤ c.line && (c.line - first) % step = 0, c)
  | .pattern regex =>
    match regex <|> c.regex with
    | some regex => ((regex.first? c.space.toArray 0).isSome, { c with regex := some regex })
    | none => (false, c)
  | .behind _ | .multiple _ => (false, c)

def selects (c : Course) (place : Nat) (command : Command) : Bool × Course :=
  match command.first, command.second with
  | none, _ => (true, c)
  | some first, none => c.holds first
  | some first, some second =>
    let leave (c : Course) : Course := { c with active := c.active.filter (·.1 ≠ place) }
    match c.active.lookup place with
    | some (some last) =>
      if c.line < last then (true, c) else (decide (c.line = last), leave c)
    | some none =>
      let (found, c) := c.holds second
      (true, if found then leave c else c)
    | none =>
      let (found, c) := match first with
        | .line 0 => (decide (c.line = 1), c)
        | first => c.holds first
      if !found then (false, c)
      else
        let enter (last : Option Nat) : Course := { c with active := (place, last) :: c.active }
        match second with
        | .line n => (true, if n ≤ c.line then c else enter (some n))
        | .behind n => (true, if n = 0 then c else enter (some (c.line + n)))
        | .multiple n =>
          let last := if n = 0 then c.line else (c.line / n + 1) * n
          (true, if last ≤ c.line then c else enter (some last))
        | second =>
          match first with
          | .line 0 =>
            let (found, c) := c.holds second
            (true, if found then c else { c with active := (place, none) :: c.active })
          | _ => (true, enter none)

end Course

/-- A text with the letters of a replacement in the case that it asks for. -/
def cased (upper : Option Bool) (once : Option Bool) (text : Bytes) : Bytes :=
  let change (upper : Bool) (c : Char) : Char := if upper then c.toUpper else c.toLower
  let all := match upper with
    | some upper => text.map (change upper)
    | none => text
  match once, all with
  | some upper, c :: rest => change upper c :: rest
  | _, _ => all

def filled (subject : Array Char) (found : Regex.Match) (filling : List Filling) : Bytes :=
  let start : Bytes × Option Bool × Option Bool := ([], none, none)
  (filling.foldl (fun (text, upper, once) part =>
    let add (more : Bytes) : Bytes × Option Bool × Option Bool :=
      if more.isEmpty then (text, upper, once) else (text ++ cased upper once more, upper, none)
    match part with
    | .text more => add more
    | .group 0 => add (subject.extract found.start found.stop).toList
    | .group n =>
      match found.groups.lookup n with
      | some (a, b) => add (subject.extract a b).toList
      | none => (text, upper, once)
    | .letters change true => (text, upper, change)
    | .letters change false => (text, change, none)) start).1

/-- Replaces matches from a place on; `before` of them were found already. The end of the last match
is no place for an empty one. -/
def replaced (regex : Regex) (filling : List Filling) (global : Bool) (nth : Nat)
    (subject : Array Char) : Nat → Nat → Nat → Option Nat → Bytes × Bool
  | 0, place, _, _ => ((subject.extract place subject.size).toList, false)
  | fuel + 1, place, before, lastEnd =>
    match regex.first? subject place with
    | none => ((subject.extract place subject.size).toList, false)
    | some found =>
      let front := (subject.extract place found.start).toList
      let next := (subject.extract found.stop (found.stop + 1)).toList
      if found.start = found.stop && lastEnd = some found.start then
        if subject.size ≤ found.start then (front, false)
        else
          let (rest, changed) :=
            replaced regex filling global nth subject fuel (found.stop + 1) before none
          (front ++ next ++ rest, changed)
      else
        let count := before + 1
        if count < nth then
          if found.start = found.stop then
            if subject.size ≤ found.start then (front, false)
            else
              let (rest, changed) :=
                replaced regex filling global nth subject fuel (found.stop + 1) count none
              (front ++ next ++ rest, changed)
          else
            let (rest, changed) :=
              replaced regex filling global nth subject fuel found.stop count (some found.stop)
            (front ++ (subject.extract found.start found.stop).toList ++ rest, changed)
        else
          let text := filled subject found filling
          if !global then (front ++ text ++ (subject.extract found.stop subject.size).toList, true)
          else if found.start = found.stop then
            if subject.size ≤ found.start then (front ++ text, true)
            else
              let (rest, _) :=
                replaced regex filling global nth subject fuel (found.stop + 1) count none
              (front ++ text ++ next ++ rest, true)
          else
            let (rest, _) :=
              replaced regex filling global nth subject fuel found.stop count (some found.stop)
            (front ++ text ++ rest, true)

def listed (text : Bytes) : Bytes :=
  let shown := text.flatMap fun c => match c with
    | '\\' => "\\\\".toList
    | '\x07' => "\\a".toList
    | '\x08' => "\\b".toList
    | '\x0C' => "\\f".toList
    | '\n' => "\\n".toList
    | '\r' => "\\r".toList
    | '\t' => "\\t".toList
    | '\x0B' => "\\v".toList
    | c => if 32 ≤ c.toNat && c.toNat < 127 then [c]
      else '\\' :: pad false '0' 3 (Nat.toDigits 8 c.toNat)
  let rec cut : Nat → Bytes → Bytes
    | 0, cs => cs
    | fuel + 1, cs =>
      if cs.length ≤ 69 then cs else cs.take 69 ++ "\\\n".toList ++ cut fuel (cs.drop 69)
  cut shown.length shown ++ ['$']

def closingPlace (script : Array Command) : Nat → Nat → Nat → Nat
  | 0, place, _ => place
  | fuel + 1, place, depth =>
    match (script[place]?).map Command.edit with
    | none => place
    | some .block => closingPlace script fuel (place + 1) (depth + 1)
    | some .closing =>
      if depth = 0 then place + 1 else closingPlace script fuel (place + 1) (depth - 1)
    | some _ => closingPlace script fuel (place + 1) depth

def addTo (files : List (Bytes × Bytes)) (path text : Bytes) : List (Bytes × Bytes) :=
  (path, (files.lookup path).getD [] ++ text) :: files.filter (·.1 ≠ path)

/-- Runs one command. `read` gives the contents of files. -/
def perform (read : Bytes → Bytes) (quiet : Bool) (script : Array Command) (place : Nat)
    (edit : Edit) (c : Course) : Course × Step :=
  let labelPlace (name : Bytes) : Step :=
    if name.isEmpty then .turn false
    else
      match script.toList.findIdx? fun command => match command.edit with
        | .label other => other = name
        | _ => false with
      | some n => .goTo (n + 1)
      | none => .turn false
  match edit with
  | .substitute regex filling global nth print file =>
    match regex <|> c.regex with
    | none => (c, .goOn)
    | some regex =>
      let subject := c.space.toArray
      let (text, changed) :=
        replaced regex filling global nth subject (2 * subject.size + 2) 0 0 none
      let c := { c with regex := some regex }
      if !changed then (c, .goOn)
      else
        let c := { c with space := text, substituted := true }
        let c := if print then c.sayLine text else c
        let c := match file with
          | some path => if path = "/dev/stdout".toList then c.sayLine text
            else { c with files := addTo c.files path (text ++ ['\n']) }
          | none => c
        (c, .goOn)
  | .mapBytes source target =>
    ({ c with space := c.space.map fun c => match source.idxOf? c with
        | some n => (target[n]?).getD c
        | none => c }, .goOn)
  | .append text => ({ c with appended := c.appended ++ [text] }, .goOn)
  | .insert text => (c.say text, .goOn)
  | .change text =>
    -- In a range, the text stands for all its lines.
    let inRange := c.active.any (·.1 = place)
    (if inRange then c else c.say text, .turn true)
  | .print => (c.sayLine c.space, .goOn)
  | .printFirst => (c.say (c.space.takeWhile (· ≠ '\n') ++ ['\n']), .goOn)
  | .delete => (c, .turn true)
  | .deleteFirst =>
    if '\n' ∈ c.space then ({ c with space := (c.space.dropWhile (· ≠ '\n')).drop 1 }, .again)
    else (c, .turn true)
  | .next =>
    let c := if quiet || c.isLast then c else c.sayLine c.space
    match c.input with
    | [] => (c, .stop false)
    | line :: rest =>
      let c := c.appended.foldl say { c with appended := [] }
      ({ c with space := line, input := rest, line := c.line + 1 }, .goOn)
  | .nextAppended =>
    match c.input with
    | [] => (c, .stop false)
    | line :: rest =>
      let c := c.appended.foldl say { c with appended := [] }
      ({ c with space := c.space ++ '\n' :: line, input := rest, line := c.line + 1 }, .goOn)
  | .hold => ({ c with held := c.space }, .goOn)
  | .holdAppended => ({ c with held := c.held ++ '\n' :: c.space }, .goOn)
  | .fetch => ({ c with space := c.held }, .goOn)
  | .fetchAppended => ({ c with space := c.space ++ '\n' :: c.held }, .goOn)
  | .exchange => ({ c with space := c.held, held := c.space }, .goOn)
  | .number => (c.say (Number.text c.line ++ ['\n']), .goOn)
  | .list => (c.say (listed c.space ++ ['\n']), .goOn)
  | .zap => ({ c with space := [] }, .goOn)
  | .quit status silent => ({ c with status := some status }, .stop silent)
  | .readFile path => ({ c with appended := c.appended ++ [read path] }, .goOn)
  | .writeFile path =>
    if path = "/dev/stdout".toList then (c.sayLine c.space, .goOn)
    else ({ c with files := addTo c.files path (c.space ++ ['\n']) }, .goOn)
  | .jump name => (c, labelPlace name)
  | .jumpIf name substituted =>
    if c.substituted = substituted then ({ c with substituted := false }, labelPlace name)
    else ({ c with substituted := false }, .goOn)
  | .label _ | .block | .closing => (c, .goOn)
where
  say (c : Course) (text : Bytes) : Course := c.say text

def run (read : Bytes → Bytes) (quiet : Bool) (script : Array Command) :
    Nat → Nat → Course → Course × Step
  | 0, _, c => (c, .stop false)
  | fuel + 1, place, c =>
    match script[place]? with
    | none => (c, .turn false)
    | some command =>
      let (found, c) := c.selects place command
      if found = command.negated then
        match command.edit with
        | .block => run read quiet script fuel (closingPlace script script.size (place + 1) 0) c
        | _ => run read quiet script fuel (place + 1) c
      else
        match perform read quiet script place command.edit c with
        | (c, .goOn) => run read quiet script fuel (place + 1) c
        | (c, .goTo place) => run read quiet script fuel place c
        | other => other

/-- Takes turns until no lines are left. With `kept`, the lines at hand stay. -/
def turns (read : Bytes → Bytes) (quiet : Bool) (script : Array Command) :
    Nat → Bool → Course → Course
  | 0, _, c => c
  | fuel + 1, kept, c =>
    let start : Option Course :=
      if kept then some c
      else
        match c.input with
        | [] => none
        | line :: rest =>
          some { c with space := line, input := rest, line := c.line + 1, substituted := false }
    match start with
    | none => c
    | some c =>
      let (c, step) := run read quiet script 100000 0 c
      let finish (hidden : Bool) (c : Course) : Course :=
        let c := if quiet || hidden then c else c.sayLine c.space
        c.appended.foldl Course.say { c with appended := [] }
      match step with
      | .stop hidden => finish hidden c
      | .again => turns read quiet script fuel true (finish true c)
      | .turn hidden => turns read quiet script fuel false (finish hidden c)
      | _ => turns read quiet script fuel false (finish false c)

end Sed

/-- The name of a copy: a star in the ending stands for the name. -/
def Sed.backup (ending name : Bytes) : Bytes :=
  if '*' ∈ ending then ending.flatMap fun c => if c = '*' then name else [c] else name ++ ending

open Sed in
def sed : Tool := fun arguments =>
  let allowed := letters "nErsuz" "efl" ++
    flags [('n', "quiet"), ('n', "silent"), ('E', "regexp-extended")] ++
    settings [('e', "expression"), ('f', "file")] ++ markers [('i', "in-place")]
  withChoice "sed" allowed false 1 arguments fun options operands => do
    let mut parts : Array Bytes := #[]
    for (letter, text) in options do
      if letter = 'e' then parts := parts.push text
      else if letter = 'f' then
        match ← contents text with
        | .ok text => parts := parts.push text
        | .error trouble => refuse "sed" s!"couldn't open file {String.ofList text}: {trouble.text}"
    if (← get).status ≠ 0 then return
    let (script, paths) := match parts.toList, operands with
      | [], first :: rest => (some first, rest)
      | [], [] => (none, [])
      | parts, operands => (some (['\n'].intercalate parts), operands)
    match script with
    | none =>
      warn "Usage: sed [OPTION]... \x7bscript-only-if-no-other-script\x7d [input-file]...\n"
      finish 1
    | some script =>
      match Sed.parse (has 'E' options || has 'r' options) script with
      | .error text => refuse "sed" text (if text = Regex.bareClass then 4 else 1)
      | .ok commands =>
        let quiet := has 'n' options || "#n\n".toList.isPrefixOf script
        let s ← get
        let read (path : Bytes) : Bytes :=
          match s.world.files.find s.place path with
          | .ok n => (s.world.files.get n).contents.toList
          | .error _ => []
        let start (text : Bytes) : Course :=
          { input := lines text, ended := text.isEmpty || text.getLast? = some '\n' }
        let edit (text : Bytes) : Action Course := do
          let c := turns read quiet commands.toArray (text.length + 10) false (start text)
          for (path, text) in c.files do
            match ← openFile .write path with
            | .ok stream =>
              writeTo stream text
            | .error trouble =>
              refuse "sed" s!"couldn't open file {String.ofList path}: {trouble.text}" 4
          return c
        let unread (path : String) (trouble : Trouble) : String :=
          if trouble = .isDirectory then s!"couldn't edit {path}: not a regular file"
          else s!"can't read {path}: {trouble.text}"
        if has 'i' options then
          for path in paths do
            match ← contents path with
            | .error trouble =>
              refuse "sed" (unread (.ofList path) trouble) (if trouble = .isDirectory then 4 else 2)
            | .ok text =>
              let c ← edit text
              let s ← get
              match s.world.files.find s.place path with
              | .ok n =>
                let files :=
                  match (last? 'i' options).getD [], s.world.files.findParent s.place path with
                  | [], _ | _, .error _ => s.world.files
                  | ending, .ok (directory, name) =>
                    (s.world.files.add directory (backup ending name) (.regular text.toArray)
                      (s.world.files.get n).mode).2
                set (s.setFiles (files.setNode n (.regular c.output.toList.flatten.toArray)))
              | .error _ => pure ()
        else
          let texts ← gather "sed" paths (fun path trouble =>
            if trouble = .isDirectory then s!"couldn't read {path}: {trouble.text}"
            else unread path trouble) 2
          -- Between files, a line that has no end gets one.
          let joined := texts.foldl (fun joined text =>
            if joined.isEmpty || joined.getLast? = some '\n' then joined ++ text
            else joined ++ '\n' :: text) []
          let failed := (← get).status
          let c ← edit joined
          put "sed" c.output.toList.flatten
          match c.status with
          | some status => finish status
          | none => if failed ≠ 0 then finish failed

end Precedence.Shell.Tool

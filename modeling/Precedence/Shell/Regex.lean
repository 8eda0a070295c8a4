import Precedence.Shell.Pattern
/-!
# Regular expressions

The expressions of text tools, in their basic and their extended notation. Of all matches the one
that starts first counts, and of these the longest one.
-/

namespace Precedence.Shell

inductive Regex where
  | empty
  /-- One of some bytes. -/
  | oneOf (members : List Char)
  | lineStart
  | lineEnd
  /-- The edge of a word: its start, its end, or either. -/
  | wordEdge (start finish : Bool)
  | insideWord
  | group (number : Nat) (body : Regex)
  /-- The text that a group has matched. -/
  | again (number : Nat)
  | concat (first second : Regex)
  | either (first second : Regex)
  | repeated (body : Regex) (least : Nat) (most : Option Nat)

namespace Regex

/-- A place in a text, with the places of the groups that were matched. -/
structure Reach where
  place : Nat
  groups : List (Nat × Nat × Nat)

def ordered (found : List Reach) : List Reach :=
  let rec once : List Reach → List Reach
    | a :: b :: rest => if a.place = b.place then once (a :: rest) else a :: once (b :: rest)
    | rest => rest
  termination_by found => found.length
  once (found.mergeSort fun a b => decide (b.place ≤ a.place))

/-- All that can be reached from places in at most so many steps. -/
def closure (step : Reach → List Reach) : Nat → List Reach → List Reach → List Reach
  | 0, reached, _ => reached
  | fuel + 1, reached, front =>
    let next := (ordered (front.flatMap step)).filter fun reach =>
      !reached.any fun other => other.place = reach.place
    if next.isEmpty then reached else closure step fuel (reached ++ next) next

def isWord (c : Char) : Bool := c.isAlphanum || c = '_'

/-- What can be reached by matching an expression from a place on. -/
def reaches (subject : Array Char) : Regex → Reach → List Reach
  | empty, reach => [reach]
  | oneOf members, reach =>
    match subject[reach.place]? with
    | some c => if c ∈ members then [{ reach with place := reach.place + 1 }] else []
    | none => []
  | lineStart, reach => if reach.place = 0 then [reach] else []
  | lineEnd, reach => if reach.place = subject.size then [reach] else []
  | wordEdge start finish, reach =>
    let before := reach.place ≠ 0 && ((subject[reach.place - 1]?).map isWord).getD false
    let after := ((subject[reach.place]?).map isWord).getD false
    if (start && !before && after) || (finish && before && !after) then [reach] else []
  | insideWord, reach =>
    let before := reach.place ≠ 0 && ((subject[reach.place - 1]?).map isWord).getD false
    let after := ((subject[reach.place]?).map isWord).getD false
    if before = after then [reach] else []
  | group number body, reach =>
    (reaches subject body reach).map fun other =>
      let others := other.groups.filter (·.1 ≠ number)
      { other with groups := (number, reach.place, other.place) :: others }
  | again number, reach =>
    match reach.groups.lookup number with
    | none => []
    | some (start, stop) =>
      let text := subject.extract start stop
      if subject.extract reach.place (reach.place + text.size) = text then
        [{ reach with place := reach.place + text.size }]
      else []
  | concat first second, reach =>
    ordered ((reaches subject first reach).flatMap fun reach => reaches subject second reach)
  | either first second, reach =>
    ordered (reaches subject first reach ++ reaches subject second reach)
  | repeated body least most, reach =>
    let step (reach : Reach) : List Reach := reaches subject body reach
    let start := (List.range least).foldl (fun front _ => ordered (front.flatMap step)) [reach]
    let more := match most with
      | some n => n - least
      | none => subject.size + 1
    ordered (closure step more start start)

/-- A part of a text that an expression has matched, with the parts of its groups. -/
structure Match where
  start : Nat
  stop : Nat
  groups : List (Nat × Nat × Nat)

def search (regex : Regex) (subject : Array Char) : Nat → Nat → Option Match
  | 0, _ => none
  | fuel + 1, start =>
    match reaches subject regex ⟨start, []⟩ with
    | reach :: _ => some ⟨start, reach.place, reach.groups⟩
    | [] => if start < subject.size then search regex subject fuel (start + 1) else none

def first? (regex : Regex) (subject : Array Char) (start : Nat) : Option Match :=
  search regex subject (subject.size + 1 - start) start

/-! ## Reading -/

structure Style where
  extended : Bool
  caseless : Bool := false
  /-- The name of a class that stands in brackets of something else is a mistake. -/
  guarded : Bool := true
  /-- What could be an operator is a mistake where it makes no sense. -/
  strict : Bool := false
  /-- `\d` stands for digits, and brackets that start with `?:` are no group. -/
  perl : Bool := false

/-- The reading of an expression: what follows, and the number of groups so far. -/
structure Reading where
  rest : Bytes
  groups : Nat := 0

abbrev Reader := StateT Reading (Except String)

def allBytes : List Char := (List.range 256).map Char.ofNat

def bothCases (style : Style) (members : List Char) : List Char :=
  if style.caseless then
    allBytes.filter fun c => c ∈ members || c.toLower ∈ members || c.toUpper ∈ members
  else members

def one (style : Style) (c : Char) : Regex := oneOf (bothCases style [c])

def word : List Char := allBytes.filter isWord

def digits : List Char := "0123456789".toList

def spaces : List Char := allBytes.filter Number.isBlank

def misplaced : String := "Invalid preceding regular expression"

def unmatchedEnd : String := "Unmatched ) or \\)"

def unmatchedBracket : String := "Unmatched [, [^, [:, [., or [="

def bareClass : String := "character class syntax is [[:space:]], not [:space:]"

/-- Whether brackets hold the name of a class that should stand in brackets of its own. -/
def isBareClass (cs : Bytes) : Bool :=
  match cs.takeWhile (· ≠ ']') with
  | ':' :: rest => rest.length > 1 && rest.getLast? = some ':' && '[' ∉ rest && ']' ∈ cs
  | _ => false

/-- The members of brackets up to the one that closes them. -/
def members (start : Bool) : Nat → Bytes → Except String (List Char × Bytes)
  | 0, _ | _, [] => .error unmatchedBracket
  | fuel + 1, c :: rest => do
    if c = ']' && !start then return ([], rest)
    else
      let range (low : Char) (rest : Bytes) : Except String (List Char × Bytes) := do
        match rest with
        | '-' :: high :: more =>
          if high = ']' then
            let (others, after) ← members false fuel rest
            return (low :: others, after)
          else if high < low then .error "Invalid range end"
          else
            let (others, after) ← members false fuel more
            return (allBytes.filter (fun c => low ≤ c ∧ c ≤ high) ++ others, after)
        | _ =>
          let (others, after) ← members false fuel rest
          return (low :: others, after)
      match c, rest with
      | '[', ':' :: more =>
        let (name, after) := more.span Char.isAlpha
        match after with
        | ':' :: ']' :: after =>
          if (Pattern.inClass? (.ofList name) 'a').isSome then
            let (others, after) ← members false fuel after
            let found := allBytes.filter fun c => (Pattern.inClass? (.ofList name) c).getD false
            return (found ++ others, after)
          else .error "Invalid character class name"
        | _ => range '[' rest
      | '[', '=' :: c :: '=' :: ']' :: after | '[', '.' :: c :: '.' :: ']' :: after => range c after
      | c, rest => range c rest

def unmatchedBrace : String := "Unmatched \\\x7b"

/-- A number of repetitions such as `2,5` up to the brace that closes it. -/
def bounds (style : Style) (cs : Bytes) : Except String (Nat × Option Nat × Bytes) := do
  let (least, rest) := cs.span Char.isDigit
  let (comma, rest) := match rest with
    | ',' :: rest => (true, rest)
    | _ => (false, rest)
  let (most, rest) := if comma then rest.span Char.isDigit else ([], rest)
  let rest ← match style.extended, rest with
    | true, '}' :: rest => pure rest
    | false, '\\' :: '}' :: rest => pure rest
    | _, _ => .error unmatchedBrace
  if least.isEmpty && !comma then .error "Invalid content of \\\x7b\\\x7d"
  let low := (Number.decimal? least).getD 0
  let high := if !comma then some low else Number.decimal? most
  if (high.map fun high => decide (high < low)) = some true then
    .error "Invalid content of \\\x7b\\\x7d"
  if 32767 < max low (high.getD 0) then .error "Regular expression too big"
  return (low, high, rest)

def take (n : Nat) : Reader Unit := modify fun r => { r with rest := r.rest.drop n }

def ended (style : Style) (depth : Nat) (rest : Bytes) : Bool :=
  match style.extended, rest with
  | _, [] => true
  | true, '|' :: _ => true
  | true, ')' :: _ => depth ≠ 0 || style.strict
  | false, '\\' :: '|' :: _ => true
  | false, '\\' :: ')' :: _ => true
  | _, _ => false

mutual

/-- Alternatives, up to the end or the bracket that closes them. -/
def alternatives (style : Style) : Nat → Nat → Reader Regex
  | 0, _ => throw "Regular expression too big"
  | fuel + 1, depth => do
    let first ← branch style fuel depth true
    match style.extended, (← get).rest with
    | true, '|' :: _ =>
      take 1
      return either first (← alternatives style fuel depth)
    | false, '\\' :: '|' :: _ =>
      take 2
      return either first (← alternatives style fuel depth)
    | _, _ => return first

/-- Expressions one after the other. At the `start`, some characters stand for themselves. -/
def branch (style : Style) : Nat → Nat → Bool → Reader Regex
  | 0, _, _ => throw "Regular expression too big"
  | fuel + 1, depth, start => do
    if ended style depth (← get).rest then return empty
    let atom ← piece style fuel depth start
    let atom ← suffixes style fuel atom
    let isAnchor := match atom with
      | lineStart => true
      | _ => false
    let rest ← branch style fuel depth (start && isAnchor)
    return concat atom rest

def suffixes (style : Style) : Nat → Regex → Reader Regex
  | 0, body => return body
  | fuel + 1, body => do
    let isAnchor := match body with
      | lineStart => true
      | _ => false
    let again (n least : Nat) (most : Option Nat) : Reader Regex := do
      take n
      if style.strict && !style.extended then
        match (← get).rest with
        | '*' :: _ | '\\' :: '{' :: _ => throw misplaced
        | _ => pure ()
      suffixes style fuel (repeated body least most)
    if isAnchor && !style.extended then return body
    if isAnchor && style.strict then
      match (← get).rest with
      | '*' :: _ | '+' :: _ | '?' :: _ => throw misplaced
      | _ => pure ()
    match style.extended, (← get).rest with
    | _, '*' :: _ => again 1 0 none
    | true, '+' :: _ | false, '\\' :: '+' :: _ => again (if style.extended then 1 else 2) 1 none
    | true, '?' :: _ | false, '\\' :: '?' :: _ => again (if style.extended then 1 else 2) 0 (some 1)
    | true, '{' :: rest =>
      match bounds style rest with
      | .ok (least, most, after) =>
        modify fun r => { r with rest := after }
        again 0 least most
      | .error text => if !style.strict && text = unmatchedBrace then return body else throw text
    | false, '\\' :: '{' :: rest =>
      let (least, most, after) ← bounds style rest
      modify fun r => { r with rest := after }
      again 0 least most
    | _, _ => return body

def piece (style : Style) : Nat → Nat → Bool → Reader Regex
  | 0, _, _ => throw "Regular expression too big"
  | fuel + 1, depth, start => do
    let grouped (n : Nat) : Reader Regex := do
      take n
      let number := (← get).groups + 1
      modify fun r => { r with groups := number }
      let body ← alternatives style fuel (depth + 1)
      match style.extended, (← get).rest with
      | true, ')' :: _ => take 1
      | false, '\\' :: ')' :: _ => take 2
      | _, _ => throw "Unmatched ( or \\("
      return group number body
    match (← get).rest with
    | [] => return empty
    | '\\' :: [] => throw "Trailing backslash"
    | '\\' :: c :: _ =>
      match style.extended, c with
      | false, '(' => grouped 2
      | false, ')' => throw unmatchedEnd
      | false, '{' =>
        if style.strict then throw misplaced
        take 2
        return one style '{'
      | _, _ =>
        take 2
        match c with
        | 'w' => return oneOf word
        | 'd' => return if style.perl then oneOf digits else one style c
        | 'D' => return if style.perl then oneOf (allBytes.filter (· ∉ digits)) else one style c
        | 'W' => return oneOf (allBytes.filter (· ∉ word))
        | 's' => return oneOf spaces
        | 'S' => return oneOf (allBytes.filter (· ∉ spaces))
        | 'b' => return wordEdge true true
        | 'B' => return insideWord
        | '<' => return wordEdge true false
        | '>' => return wordEdge false true
        | '\x60' => return lineStart
        | '\'' => return lineEnd
        | 'n' => return one style '\n'
        | 't' => return one style '\t'
        | c =>
          if c.isDigit && c ≠ '0' then
            let number := c.toNat - '0'.toNat
            if (← get).groups < number then throw "Invalid back reference"
            return again number
          else return one style c
    | '(' :: '?' :: ':' :: _ =>
      if !style.perl then grouped 1
      else
        take 3
        let body ← alternatives style fuel (depth + 1)
        match (← get).rest with
        | ')' :: _ => take 1
        | _ => throw "Unmatched ( or \\("
        return body
    | '(' :: _ => if style.extended then grouped 1 else take 1; return one style '('
    | '[' :: rest =>
      let (negated, rest) := match rest with
        | '^' :: rest => (true, rest)
        | _ => (false, rest)
      if rest.isEmpty then throw "Invalid regular expression"
      if style.guarded && isBareClass rest then throw bareClass
      let (found, after) ← members true (rest.length + 1) rest
      modify fun r => { r with rest := after }
      let found := bothCases style found
      return oneOf (if negated then allBytes.filter (· ∉ found) else found)
    | '.' :: _ => take 1; return oneOf allBytes
    | '^' :: _ =>
      take 1
      return if style.extended || start then lineStart else one style '^'
    | '$' :: rest =>
      take 1
      return if style.extended || ended style (depth + 1) rest then lineEnd else one style '$'
    | c :: rest =>
      if style.extended && (c = '*' || c = '+' || c = '?') then
        -- A repetition of nothing.
        if style.strict then throw misplaced
        take 1
        return empty
      else if style.extended && c = '{' && start then
        if style.strict then throw misplaced
        match bounds style rest with
        | .ok (_, _, after) =>
          modify fun r => { r with rest := after }
          return empty
        | .error _ => pure ()
      take 1
      return one style c

end

/-- The expression that a text stands for, with the number of its groups. -/
def parse (style : Style) (text : Bytes) : Except String (Regex × Nat) := do
  let (regex, reading) ← alternatives style (8 * text.length + 16) 0 |>.run { rest := text }
  match reading.rest with
  | [] => return (regex, reading.groups)
  | _ => .error unmatchedEnd

end Regex

end Precedence.Shell

import Precedence.Shell.Tool.Basic

namespace Precedence.Shell.Tool

/-- Positions from one on, up to another one if there is one. -/
structure Span where
  first : Nat
  last : Option Nat

def Span.holds (span : Span) (n : Nat) : Bool :=
  span.first ≤ n && (span.last.map fun last => decide (n ≤ last)).getD true

/-- A list such as `1,3-5,7-`. -/
def spans? (fields : Bool) (cs : Bytes) : Except String (List Span) := do
  let what := if fields then "field" else "byte/character position"
  let parts := cs.splitBy fun a b => (a = ',' || a = ' ') = (b = ',' || b = ' ')
  (parts.filter fun part => part.head? ≠ some ',' && part.head? ≠ some ' ').mapM fun part => do
    let (front, rest) := part.span Char.isDigit
    let zero : Except String Span :=
      .error ((if fields then "fields" else "byte/character positions") ++ " are numbered from 1")
    let bad (text : Bytes) : Except String Span :=
      .error s!"invalid {what} value '{String.ofList text}'"
    match rest with
    | [] =>
      match Number.decimal? front with
      | some 0 => zero
      | some n => return ⟨n, some n⟩
      | none => bad part
    | '-' :: behind =>
      match Number.decimal? front, Number.decimal? behind with
      | some first, some last =>
        if first = 0 then zero
        else if last < first then .error "invalid decreasing range"
        else return ⟨first, some last⟩
      | some first, none =>
        if behind.isEmpty then (if first = 0 then zero else return ⟨first, none⟩) else bad behind
      | none, some last => if front.isEmpty then return ⟨1, some last⟩ else bad part
      | none, none =>
        if behind.isEmpty then .error s!"invalid range with no endpoint: {String.ofList part}"
        else bad behind
    | _ => bad rest

def cut : Tool := fun arguments =>
  let allowed :=
    flags [('s', "only-delimited"), ('C', "complement"), ('n', ""), ('z', "zero-terminated")] ++
    settings [('f', "fields"), ('d', "delimiter"), ('c', "characters"), ('b', "bytes"),
      ('O', "output-delimiter")]
  withChoice "cut" allowed false 1 arguments fun options paths => do
    let lists := options.filter fun (letter, _) => letter = 'f' || letter = 'c' || letter = 'b'
    match lists with
    | [] => misuse "cut" "you must specify a list of bytes, characters, or fields"
    | _ :: _ :: _ => misuse "cut" "only one list may be specified"
    | [(letter, list)] =>
      let byFields := letter = 'f'
      let delimiter := (last? 'd' options).getD ['\t']
      if delimiter.length > 1 then misuse "cut" "the delimiter must be a single character"
      else if !byFields && has 'd' options then
        misuse "cut" "an input delimiter may be specified only when operating on fields"
      else if !byFields && has 's' options then
        misuse "cut" "suppressing non-delimited lines makes sense\n\tonly when operating on fields"
      else
        match spans? byFields list with
        | .error text => misuse "cut" text
        | .ok spans =>
          let kept (n : Nat) : Bool := spans.any (·.holds (n + 1)) ≠ has 'C' options
          let mark := delimiter.head?.getD '\x00'
          let choose (line : Bytes) : Option Bytes :=
            if byFields then
              if mark ∉ line then if has 's' options then none else some line
              else
                let fields := (line.splitOn mark).zipIdx.filter fun (_, n) => kept n
                some (((last? 'O' options).getD delimiter).intercalate (fields.map Prod.fst))
            else
              let chosen := line.zipIdx.filter fun (_, n) => kept n
              match last? 'O' options with
              | none => some (chosen.map Prod.fst)
              | some between =>
                let runs := chosen.splitBy fun a b => a.2 + 1 = b.2
                some (between.intercalate (runs.map fun run => run.map Prod.fst))
          forFiles "cut" paths fun _ text => put "cut" (unlines ((lines text).filterMap choose))

/-! ## Sets of bytes -/

/-- A part of a set: a byte, or one that is repeated, as often as needed or a number of times. -/
inductive SetPart where
  | byte (c : Char)
  | repeated (c : Char) (times : Option Nat)
  /-- A class of bytes; those of letters of one case stand for those of the other. -/
  | group (name : String)

def allBytes : List Char := (List.range 256).map Char.ofNat

def classMembers (name : String) : List Char :=
  allBytes.filter fun c => (Pattern.inClass? name c).getD false

def between (first last : Char) : List Char :=
  (List.range (last.toNat + 1 - first.toNat)).map fun n => Char.ofNat (first.toNat + n)

/-- A byte of a set, which may be written with a backslash, and what follows. -/
def setByte (cs : Bytes) : Option (Char × Bytes) :=
  match cs with
  | [] => none
  | ['\\'] => some ('\\', [])
  | '\\' :: 'e' :: rest => some ('e', rest)
  | '\\' :: c :: rest =>
    let (byte, after) := escape (c :: rest)
    if byte = '\\' && c ≠ '\\' then some (c, rest) else some (byte, after)
  | c :: rest => some (c, rest)

def setParts : Nat → Bytes → Except String (List SetPart)
  | 0, _ => .ok []
  | _, [] => .ok []
  | fuel + 1, cs => do
    let single : Except String (List SetPart) := do
      match setByte cs with
      | none => return []
      | some (first, '-' :: more) =>
        match setByte more with
        | none => return [.byte first, .byte '-']
        | some (last, rest) =>
          if last < first then
            let shown := String.ofList (cs.take (cs.length - rest.length))
            .error s!"range-endpoints of '{shown}' are in reverse collating sequence order"
          else return (between first last).map SetPart.byte ++ (← setParts fuel rest)
      | some (first, rest) => return .byte first :: (← setParts fuel rest)
    match cs with
    | '[' :: ':' :: rest =>
      let (name, after) := rest.span Char.isAlpha
      match after with
      | ':' :: ']' :: rest =>
        let name := String.ofList name
        if (Pattern.inClass? name 'a').isSome then return .group name :: (← setParts fuel rest)
        else .error s!"invalid character class '{name}'"
      | _ => single
    | '[' :: '=' :: c :: '=' :: ']' :: rest => return .byte c :: (← setParts fuel rest)
    | '[' :: rest =>
      match setByte rest with
      | some (c, '*' :: more) =>
        let (digits, after) := more.span Char.isDigit
        match after with
        | ']' :: rest =>
          let base := if digits.head? = some '0' then 8 else 10
          let times := (Number.natural? base digits).filter (· ≠ 0)
          return .repeated c times :: (← setParts fuel rest)
        | _ => single
      | _ => single
    | _ => single

/-- The bytes of a set whose repeated byte fills it up to a length. -/
def setBytes (length : Nat) (parts : List SetPart) : List Char :=
  let plain (part : SetPart) : List Char := match part with
    | .byte c => [c]
    | .repeated c (some n) => List.replicate n c
    | .repeated _ none => []
    | .group name => classMembers name
  let known := (parts.flatMap plain).length
  parts.flatMap fun part => match part with
    | .repeated c none => List.replicate (length - known) c
    | part => plain part

def tr : Tool := fun arguments =>
  let allowed := flags [('d', "delete"), ('s', "squeeze-repeats"), ('c', "complement"), ('C', ""),
    ('t', "truncate-set1")]
  -- Options stand in front of the sets.
  let (front, rest) :=
    arguments.span fun cs => cs.length > 1 && cs.head? = some '-' && cs ≠ "--".toList
  let rest := if rest.head? = some "--".toList then rest.drop 1 else rest
  withChoice "tr" allowed false 1 front fun options _ => do
    let deletes := has 'd' options
    let squeezes := has 's' options
    let shown (cs : Bytes) : String := String.ofList cs
    let help := "Try 'tr --help' for more information.\n"
    let refuseWith (text : String) : Action Unit := do
      warn s!"tr: {text}\n{help}"
      finish 1
    let single := (deletes && !squeezes) || (!deletes && squeezes && rest.length = 1)
    match rest with
    | [] => misuse "tr" "missing operand"
    | [first] =>
      if !single then
        refuseWith (s!"missing operand after '{shown first}'\n" ++
          (if deletes then "Two strings must be given when both deleting and squeezing repeats."
            else "Two strings must be given when translating."))
      else run options [first]
    | [first, second] =>
      if deletes && !squeezes then
        refuseWith (s!"extra operand '{shown second}'\n" ++
          "Only one string may be given when deleting without squeezing repeats.")
      else run options [first, second]
    | _ :: _ :: third :: _ => misuse "tr" s!"extra operand '{shown third}'"
where
  run (options : List Chosen) (sets : List Bytes) : Action Unit := do
    let first := sets.head?.getD []
    let second := sets[1]?
    let deletes := has 'd' options
    let squeezes := has 's' options
    let parsed := do
      let one ← setParts (first.length + 1) first
      let two ← match second with
        | some cs => setParts (cs.length + 1) cs
        | none => .ok []
      return (one, two)
    match parsed with
    | .error text => refuse "tr" text
    | .ok (one, two) =>
      let source := setBytes 0 one
      let complement := has 'c' options || has 'C' options
      let source := if complement then allBytes.filter (· ∉ source) else source
      let target := setBytes source.length two
      if second.isSome && !deletes && target.isEmpty && !has 't' options then
        refuse "tr" "when not truncating set1, string2 must be non-empty"
      else
        let text ← match ← contents ['-'] with
          | .ok text => pure text
          | .error trouble => do
            refuse "tr" s!"read error: {trouble.text}"
            pure []
        let squeeze (members : List Char) (text : Bytes) : Bytes :=
          (text.foldl (fun (shown : Bytes) c =>
            if shown.head? = some c && c ∈ members then shown else c :: shown) []).reverse
        let image : Array Char :=
          let source := if has 't' options then source.take target.length else source
          let pairs :=
            source.zipIdx.map fun (c, n) => (c, (target[n]?).getD (target.getLast?.getD c))
          pairs.foldl (fun table (c, d) => table.setIfInBounds c.toNat d) allBytes.toArray
        let text :=
          if deletes then
            let kept := text.filter (· ∉ source)
            if squeezes then squeeze target kept else kept
          else
            match second with
            | none => squeeze source text
            | some _ =>
              let mapped := text.map fun c => (image[c.toNat]?).getD c
              if squeezes then squeeze target mapped else mapped
        put "tr" text

end Precedence.Shell.Tool

import Precedence.Shell.Regex
import Precedence.Shell.Tool.Basic

namespace Precedence.Shell.Tool

inductive Wanted where
  | regex (regex : Regex)
  | literal (text : Bytes)

namespace Wanted

def find? (caseless : Bool) (line : Array Char) (start : Nat) : Wanted → Option (Nat × Nat)
  | regex r => (r.first? line start).map fun found => (found.start, found.stop)
  | literal text =>
    let fold (c : Char) : Char := if caseless then c.toLower else c
    let wanted := text.map fold
    let starts := (List.range (line.size + 1 - start)).map (· + start)
    (starts.find? fun n => ((line.extract n (n + text.length)).toList.map fold) = wanted).map
      fun n => (n, n + text.length)

end Wanted

/-- The parts of a line that patterns match, from a place on. With `whole`, only a match of the
entire line counts, and with `words` one between the edges of words. -/
def matches? (wanted : List Wanted) (caseless whole words : Bool) (line : Array Char) :
    Nat → Nat → Option (Nat × Nat)
  | 0, _ => none
  | fuel + 1, start =>
    let found := wanted.filterMap (Wanted.find? caseless line start)
    let best := found.foldl (fun best candidate =>
      match best with
      | none => some candidate
      | some (a, b) =>
        if candidate.1 < a || (candidate.1 = a && b < candidate.2) then some candidate
        else best) none
    match best with
    | none => none
    | some (a, b) =>
      let isWordAt (n : Nat) : Bool := Regex.isWord (line.getD n '\n')
      let atEdges := !(a ≠ 0 && isWordAt (a - 1)) && !isWordAt b
      if whole then if a = 0 && b = line.size then best else none
      else if words && !atEdges then
        if start < line.size then matches? wanted caseless whole words line fuel (a + 1) else none
      else best

/-- All parts of a line that patterns match and that are not empty. -/
def allMatches (next : Nat → Option (Nat × Nat)) (size : Nat) : Nat → Nat → List (Nat × Nat)
  | 0, _ => []
  | fuel + 1, start =>
    match next start with
    | none => []
    | some (a, b) =>
      if a = b then if a < size then allMatches next size fuel (a + 1) else []
      else (a, b) :: allMatches next size fuel b

def grepUsage (text : String) : Action Unit := do
  warn (text ++ "Usage: grep [OPTION]... PATTERNS [FILE]...\n" ++
    "Try 'grep --help' for more information.\n")
  finish 2

def below (files : Files) : Nat → Bytes → Nat → List Bytes
  | 0, _, _ => []
  | fuel + 1, path, n =>
    match (files.get n).node with
    | .directory .. =>
      (files.names n).flatMap fun name =>
        match (files.entries n).lookup name with
        | some inner =>
          below files fuel (pathBelow path name) inner
        | none => []
    | _ => if (files.get n).isRegular then [path] else []

def grep (extended fixed : Bool) : Tool := fun arguments =>
  let allowed := letters "EFGPivwxclLqsnhHorRabUzZy" "efmABC" ++
    flags [('i', "ignore-case"), ('v', "invert-match"), ('c', "count"), ('n', "line-number"),
      ('q', "quiet"), ('o', "only-matching"), ('E', "extended-regexp"), ('F', "fixed-strings"),
      ('w', "word-regexp"), ('x', "line-regexp"), ('l', "files-with-matches"),
        ('r', "recursive")] ++
    settings [('e', "regexp"), ('m', "max-count")] ++ markers [('K', "color"), ('K', "colour")]
  match choose allowed true false (arguments.flatten.length + arguments.length + 1) arguments with
  | .error text => grepUsage s!"grep: {text}\n"
  | .ok (options, operands) => do
    let given := options.filter fun (letter, _) => letter = 'e' || letter = 'f'
    let mut patterns : Array Bytes := #[]
    for (letter, text) in given do
      if letter = 'e' then patterns := patterns ++ (text.splitOn '\n').toArray
      else
        match ← contents text with
        | .ok text => patterns := patterns ++ (lines text).toArray
        | .error trouble => refuse "grep" s!"{String.ofList text}: {trouble.text}" 2
    if (← get).status ≠ 0 then return
    match given, operands with
    | [], [] => grepUsage ""
    | _, _ =>
      let (texts, paths) := match given, operands with
        | [], first :: rest => (first.splitOn '\n', rest)
        | _, operands => (patterns.toList, operands)
      let fixed := has 'F' options || (fixed && !has 'E' options && !has 'G' options)
      let extended := has 'E' options || has 'P' options || (extended && !has 'G' options)
      let caseless := has 'i' options || has 'y' options
      let parsed := texts.mapM fun text =>
        if fixed then .ok (Wanted.literal text)
        else
          (Regex.parse { extended, caseless, perl := has 'P' options } text).map fun found =>
            Wanted.regex found.1
      match parsed with
      | .error text => refuse "grep" text 2
      | .ok wanted => search options wanted paths
where
  search (options : List Chosen) (wanted : List Wanted) (paths : List Bytes) : Action Unit := do
    let caseless := has 'i' options || has 'y' options
    let recursive := has 'r' options || has 'R' options
    let s ← get
    let names := if recursive then
        let roots := if paths.isEmpty then [['.']] else paths
        roots.flatMap fun path =>
          match s.world.files.find s.place path with
          | .ok n =>
            if (s.world.files.get n).isDirectory then
              (below s.world.files 100 path n).map fun found =>
                if paths.isEmpty then found.drop 2 else found
            else [path]
          | .error _ => [path]
      else if paths.isEmpty then [['-']] else paths
    let named := (has 'H' options || recursive || names.length > 1) && !has 'h' options
    let number (letter : Char) : Option Nat := (last? letter options).bind Number.decimal?
    let around := number 'C' <|> number '#'
    let before := (number 'B' <|> around).getD 0
    let after := (number 'A' <|> around).getD 0
    let limit := (number 'm').getD 1000000000
    let mut any := false
    let mut failed := false
    for path in names do
      match ← contents path with
      | .error trouble =>
        failed := true
        if !has 's' options then warn s!"grep: {String.ofList path}: {trouble.text}\n"
      | .ok text =>
        let name := if path = ['-'] then "(standard input)".toList else path
        let rows := (lines text).toArray
        let front (mark : Char) (n : Nat) (column : Nat) : Bytes :=
          let offset :=
            ((rows.toList.take (n - 1)).map fun line => line.length + 1).foldl (· + ·) column
          (if named then name ++ [mark] else []) ++
            (if has 'n' options then Number.text n ++ [mark] else []) ++
              if has 'b' options then Number.text offset ++ [mark] else []
        let next (line : Bytes) : Nat → Option (Nat × Nat) := fun start =>
          matches? wanted caseless (has 'x' options) (has 'w' options) line.toArray
            (line.length + 2) start
        let hits := (rows.toList.zipIdx.filter fun (line, _) =>
          (next line 0).isSome ≠ has 'v' options).take limit
        if !hits.isEmpty then any := true
        let quiet := has 'q' options
        if quiet then pure ()
        else if has 'l' options then (if hits.isEmpty then pure () else put "grep" (name ++ ['\n']))
        else if has 'L' options then (if hits.isEmpty then put "grep" (name ++ ['\n']) else pure ())
        else if has 'c' options then
          put "grep" ((if named then name ++ [':'] else []) ++ Number.text hits.length ++ ['\n'])
        else if '\x00' ∈ text && !has 'a' options then
          if !hits.isEmpty then warn s!"grep: {String.ofList name}: binary file matches\n"
        else if has 'o' options then
          if !has 'v' options then
            put "grep" (hits.flatMap fun (line, n) =>
              (allMatches (next line) line.length (line.length + 2) 0).flatMap fun (a, b) =>
                front ':' (n + 1) a ++ (line.drop a).take (b - a) ++ ['\n'])
        else
          let chosen := hits.map Prod.snd
          let shown := (List.range rows.size).filter fun n =>
            chosen.any fun hit => hit ≤ n + before && n ≤ hit + after
          let gaps := before ≠ 0 || after ≠ 0
          let pieces := shown.zipIdx.map fun (n, k) =>
            let gap := if gaps && k ≠ 0 && shown[k - 1]? ≠ some (n - 1) then "--\n".toList else []
            gap ++ front (if n ∈ chosen then ':' else '-') (n + 1) 0 ++ (rows[n]?).getD [] ++ ['\n']
          put "grep" pieces.flatten
    finish (if failed && !(has 'q' options && any) then 2 else if any then 0 else 1)

end Precedence.Shell.Tool

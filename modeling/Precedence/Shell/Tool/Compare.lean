import Precedence.Shell.Tool.Place

namespace Precedence.Shell.Tool

/-- Compares two files, up to the first byte in which they differ. -/
def cmp : Tool := fun arguments =>
  withChoice "cmp" (letters "slb" "n") false 2 arguments fun options paths => do
    let names := if paths.length = 1 then paths ++ [['-']] else paths
    match names with
    | [first, second] =>
      match ← contents first, ← contents second with
      | .error trouble, _ =>
        if has 's' options then finish 2 else refuse "cmp" s!"{shown first}: {trouble.text}" 2
      | _, .error trouble =>
        if has 's' options then finish 2 else refuse "cmp" s!"{shown second}: {trouble.text}" 2
      | .ok a, .ok b =>
        if a ≠ b then
          finish 1
          if !has 's' options then
            match (a.zip b).findIdx? fun (c, d) => c ≠ d with
            | some n =>
              let line := (a.take n).count '\n' + 1
              put "cmp" s!"{shown first} {shown second} differ: char {n + 1}, line {line}\n".toList
            | none =>
              let (short, text) := if a.length < b.length then (first, a) else (second, b)
              if text.isEmpty then refuse "cmp" s!"EOF on {shown short} which is empty"
              else
                let line := text.count '\n'
                let place :=
                  if text.getLast? = some '\n' then s!"line {line}" else s!"in line {line + 1}"
                refuse "cmp" s!"EOF on {shown short} after byte {text.length}, {place}"
    | [] => wrong "missing operand after 'cmp'"
    | _ => wrong s!"extra operand '{shown ((names[2]?).getD [])}'"
where
  wrong (text : String) : Action Unit := do
    warn s!"cmp: {text}\ncmp: Try 'cmp --help' for more information.\n"
    finish 2

def withTwo (tool : String) (status : Nat) (paths : List Bytes)
    (next : Bytes → Bytes → Action Unit) : Action Unit := do
  match paths with
  | [first, second] =>
    match ← contents first, ← contents second with
    | .error trouble, _ => refuse tool s!"{shown first}: {trouble.text}" status
    | _, .error trouble => refuse tool s!"{shown second}: {trouble.text}" status
    | .ok a, .ok b => next a b
  | [] => wrong (if tool = "diff" then "missing operand after 'diff'" else "missing operand")
  | [path] => wrong s!"missing operand after '{shown path}'"
  | _ :: _ :: extra :: _ => wrong s!"extra operand '{shown extra}'"
where
  wrong (text : String) : Action Unit := do
    let front := if tool = "diff" then "diff: " else ""
    warn s!"{tool}: {text}\n{front}Try '{tool} --help' for more information.\n"
    finish status

/-- Sorted lines side by side, each with the column of the files that it is in. -/
def merged : Nat → List Bytes → List Bytes → List (Nat × Bytes)
  | 0, _, _ => []
  | _, [], [] => []
  | _, a, [] => a.map fun line => (1, line)
  | _, [], b => b.map fun line => (2, line)
  | fuel + 1, a :: as, b :: bs =>
    if a = b then (3, a) :: merged fuel as bs
    else if a < b then (1, a) :: merged fuel as (b :: bs)
    else (2, b) :: merged fuel (a :: as) bs

/-- The lines that two sorted files have in common, and those that they have not. -/
def comm : Tool := fun arguments =>
  withChoice "comm" (letters "123z" "") false 1 arguments fun options paths =>
    withTwo "comm" 1 paths fun a b =>
      let (first, second) := (lines a, lines b)
      let hides (column : Nat) : Bool := has ((toString column).toList.headD ' ') options
      let rows := merged (first.length + second.length + 1) first second
      put "comm" (rows.flatMap fun (column, line) =>
        if hides column then []
        else
          let before := ((List.range column).drop 1).filter fun n => !hides n
          List.replicate before.length '\t' ++ line ++ ['\n'])

/-- A change between two lists: where it starts in each, and how much of each it takes. -/
structure Hunk where
  left : Nat
  leftSize : Nat
  right : Nat
  rightSize : Nat

/-- For each suffix of the second list, the length of the longest common part with the first. -/
def commonRow (x : Bytes) (row : List Nat) : List Bytes → List Nat
  | [] => [0]
  | y :: ys =>
    let rest := commonRow x (row.drop 1) ys
    let here := if x = y then 1 + (row.drop 1).headD 0 else max (row.headD 0) (rest.headD 0)
    here :: rest

/-- The rows for all suffixes of the first list, the longest first. -/
def commonTable (xs ys : List Bytes) : List (List Nat) :=
  xs.foldr (fun x rows => commonRow x (rows.headD []) ys :: rows)
    [List.replicate (ys.length + 1) 0]

/-- The changes that turn one list into the other; `current` is the one that is being read. -/
def hunks : Nat → List (List Nat) → Nat → Nat → List Bytes → List Bytes → Option Hunk → List Hunk
  | 0, _, _, _, _, _, current => current.toList
  | fuel + 1, table, i, j, xs, ys, current =>
    let changed (left right : Nat) : Option Hunk :=
      let hunk := current.getD ⟨i, 0, j, 0⟩
      some { hunk with leftSize := hunk.leftSize + left, rightSize := hunk.rightSize + right }
    match xs, ys with
    | [], [] => current.toList
    | _ :: xs, [] => hunks fuel (table.drop 1) (i + 1) j xs [] (changed 1 0)
    | [], _ :: ys => hunks fuel (table.map (List.drop 1)) i (j + 1) [] ys (changed 0 1)
    | x :: xs', y :: ys' =>
      if x = y then
        current.toList ++ hunks fuel ((table.drop 1).map (List.drop 1)) (i + 1) (j + 1) xs' ys' none
      else
        let below := ((table.drop 1).headD []).headD 0
        let beside := ((table.headD []).drop 1).headD 0
        if beside ≤ below then hunks fuel (table.drop 1) (i + 1) j xs' ys (changed 1 0)
        else hunks fuel (table.map (List.drop 1)) i (j + 1) xs ys' (changed 0 1)

/-- A line behind a sign, and a note where it has no end. -/
def marked (sign : Char) (line : Bytes) : Bytes :=
  let shown := sign :: ' ' :: line
  if line.getLast? = some '\n' then shown else shown ++ "\n\\ No newline at end of file\n".toList

/-- The numbers of the lines that a change takes, or of the line before it. -/
def place (start size : Nat) : Bytes :=
  match size with
  | 0 => Number.text start
  | 1 => Number.text (start + 1)
  | size => Number.text (start + 1) ++ ',' :: Number.text (start + size)

def diff : Tool := fun arguments =>
  let allowed := letters "qsiwbBrNa" "" ++ flags [('q', "brief")]
  withChoice "diff" allowed false 2 arguments fun options paths =>
    withTwo "diff" 2 paths fun a b => do
      let (first, second) := (shown (paths.headD []), shown ((paths.drop 1).headD []))
      let plain (line : Bytes) : Bytes :=
        let line := if has 'w' options then line.filter fun c => c ≠ ' ' && c ≠ '\t' else line
        if has 'i' options then line.map Char.toLower else line
      let (xs, ys) := (fullLines a, fullLines b)
      let (us, vs) := (xs.map plain, ys.map plain)
      if us = vs then
        if has 's' options then put "diff" s!"Files {first} and {second} are identical\n".toList
      else if has 'q' options then
        put "diff" s!"Files {first} and {second} differ\n".toList
        finish 1
      else
        let found := hunks (us.length + vs.length + 1) (commonTable us vs) 0 0 us vs none
        put "diff" (found.flatMap fun hunk =>
          let old := ((xs.drop hunk.left).take hunk.leftSize).flatMap (marked '<')
          let new := ((ys.drop hunk.right).take hunk.rightSize).flatMap (marked '>')
          let (letter, between) := match hunk.leftSize, hunk.rightSize with
            | 0, _ => ('a', [])
            | _, 0 => ('d', [])
            | _, _ => ('c', "---\n".toList)
          place hunk.left hunk.leftSize ++ letter :: place hunk.right hunk.rightSize ++
            '\n' :: old ++ between ++ new)
        finish 1

/-- The lines of two files that start with the same word, each followed by the rest of both. -/
def join : Tool := fun arguments =>
  withChoice "join" (letters "i" "t12jav") false 1 arguments fun options paths =>
    withTwo "join" 1 paths fun a b => do
      let separator := (last? 't' options).bind List.head?
      let split (line : Bytes) : List Bytes :=
        match separator with
        | some c => line.splitOn c
        | none => (line.splitOnP fun c => c = ' ' || c = '\t').filter (!·.isEmpty)
      let field (letter : Char) : Nat :=
        (((last? letter options <|> last? 'j' options).bind Number.decimal?).getD 1) - 1
      let keyed (n : Nat) (line : Bytes) : Bytes × List Bytes :=
        let parts := split line
        ((parts[n]?).getD [], parts.eraseIdx n)
      let left := (lines a).map (keyed (field '1'))
      let right := (lines b).map (keyed (field '2'))
      let glue (parts : List Bytes) : Bytes := [separator.getD ' '].intercalate parts ++ ['\n']
      let unpaired (n : Char) (rows others : List (Bytes × List Bytes)) : List (Bytes × Bytes) :=
        if options.any fun (letter, text) => (letter = 'a' || letter = 'v') && text = [n] then
          (rows.filter fun row => !others.any (·.1 = row.1)).map fun (key, rest) =>
            (key, glue (key :: rest))
        else []
      let paired := if has 'v' options then [] else left.flatMap fun (key, rest) =>
        (right.filter (·.1 = key)).map fun (_, other) => (key, glue (key :: rest ++ other))
      let rows := paired ++ unpaired '1' left right ++ unpaired '2' right left
      put "join" ((rows.mergeSort fun a b => Bytes.le a.1 b.1).flatMap Prod.snd)

end Precedence.Shell.Tool

import Precedence.Shell.Tool.Process

namespace Precedence.Shell.Tool

/-- How the program in a file starts: with its name and its arguments, in a process of its own. -/
abbrev Start := Nat → List Bytes → Action ExitStatus

abbrev Launcher := Start → Tool

def locate (name : Bytes) : Action (Except Trouble Nat) := do
  let s ← get
  if '/' ∈ name then
    match s.world.files.find s.place name with
    | .ok n =>
      let file := s.world.files.get n
      return if file.isDirectory || file.mode &&& 0o111 = 0 then .error .denied else .ok n
    | .error trouble => return .error trouble
  else
    return match s.program? name with
      | some (_, n) => .ok n
      | none => .error .absent

/-- The program that runs a script, as its first line names it: a path with at most one argument. -/
def interpreter? (text : Bytes) : Option (List Bytes) :=
  match text with
  | '#' :: '!' :: rest =>
    let line := (rest.takeWhile (· ≠ '\n')).dropWhile fun c => c = ' ' || c = '\t'
    let (path, rest) := line.span fun c => c ≠ ' ' && c ≠ '\t'
    let trim (cs : Bytes) : Bytes := cs.dropWhile fun c => c = ' ' || c = '\t'
    let argument := (trim (trim rest).reverse).reverse
    if path.isEmpty then none else some (path :: if argument.isEmpty then [] else [argument])
  | _ => none

/-- The status of a program that could not start another one. -/
def unstarted (trouble : Trouble) : Nat := if trouble = .denied then 126 else 127

def endAs : ExitStatus → Action Unit
  | .exited code => finish code.toNat
  | .signalled signal => modify fun s => { s with flow := .killed signal }

def become (start : Start) (tool : String) (front : String) (words : List Bytes) : Action Unit := do
  let name := words.head?.getD []
  match ← locate name with
  | .ok n => endAs (← start n words)
  | .error trouble =>
    refuse tool s!"{front}'{String.ofList name}': {trouble.text}" (unstarted trouble)

/-- The words of a text for `env -S`. -/
def splitWords (text : Bytes) : List Bytes := (text.splitOn ' ').filter (!·.isEmpty)

/-- Runs a program with other variables, or prints the variables. -/
def env : Launcher := fun start arguments =>
  let allowed := flags [('i', "ignore-environment"), ('0', "null")] ++
    settings [('u', "unset"), ('C', "chdir"), ('S', "split-string")]
  withLeading "env" allowed 125 arguments fun options operands => do
    let (bare, operands) :=
      if operands.head? = some ['-'] then (true, operands.drop 1) else (false, operands)
    let operands :=
      (options.filter (·.1 = 'S')).flatMap (fun option => splitWords option.2) ++ operands
    if bare || has 'i' options then modify fun s => { s with bindings := [] }
    for (letter, text) in options do
      if letter = 'u' then modify fun s => s.putVariable text none
    let (assignments, words) := operands.span fun word => decide ('=' ∈ word)
    for text in assignments do
      match Builtin.binding text with
      | (name, value) =>
        modify fun s => s.putVariable name (some ⟨some (value.getD []), true, false⟩)
    match last? 'C' options with
    | some path =>
      let s ← get
      match s.world.files.find s.place path with
      | .ok n =>
        if (s.world.files.get n).isDirectory then modify fun s => { s with place := n }
        else refuse "env" s!"cannot change directory to '{String.ofList path}': Not a directory" 125
      | .error trouble =>
        refuse "env" s!"cannot change directory to '{String.ofList path}': {trouble.text}" 125
    | none => pure ()
    if (← get).status = 0 then
      if words.isEmpty then
        let stop := if has '0' options then '\x00' else '\n'
        put "env" ((← get).environment.flatMap fun (name, value) => name ++ '=' :: value ++ [stop])
      else if has '0' options then misuse "env" "cannot specify --null (-0) with command" 125
      else
        let path := "/bin:/usr/bin".toList
        modify fun s => if (s.value? "PATH".toList).isSome then s
          else s.putVariable "PATH".toList (some ⟨some path, false, false⟩)
        become start "env" "" words

def nohup : Launcher := fun start arguments =>
  withLeading "nohup" [] 125 arguments fun _ words =>
    if words.isEmpty then misuse "nohup" "missing operand" 125
    else become start "nohup" "failed to run command " words

def nice : Launcher := fun start arguments =>
  -- A number may follow the dash.
  let arguments := match arguments with
    | ('-' :: c :: digits) :: rest =>
      if c.isDigit then ['-', 'n'] :: (c :: digits) :: rest else arguments
    | _ => arguments
  withLeading "nice" (settings [('n', "adjustment")]) 125 arguments fun options words =>
    match last? 'n' options, words with
    | none, [] => put "nice" "0\n".toList
    | some _, [] => misuse "nice" "a command must be given with an adjustment" 125
    | some text, words =>
      if (Number.whole? false text).isSome then become start "nice" "" words
      else refuse "nice" s!"invalid adjustment '{String.ofList text}'" 125
    | none, words => become start "nice" "" words

def timeout : Launcher := fun start arguments =>
  let allowed := flags [('p', "preserve-status"), ('f', "foreground"), ('v', "verbose")] ++
    settings [('s', "signal"), ('k', "kill-after")]
  withLeading "timeout" allowed 125 arguments fun options operands => do
    match operands with
    | [] | [_] =>
      warn "Try 'timeout --help' for more information.\n"
      finish 125
    | first :: words =>
      match interval? first, words.head? with
      | some time, some name =>
        match ← locate name with
        | .error trouble =>
          refuse "timeout" s!"failed to run command '{String.ofList name}': {trouble.text}"
            (unstarted trouble)
        | .ok n =>
          let s ← get
          let outer := s.world.deadline
          let stop := s.world.clock + time
          let mine := time ≠ 0 && (outer.map fun (time, _) => decide (stop < time)).getD true
          if mine then
            set { s with world := { s.world with deadline := some (stop, s.world.nextProcess) } }
          let status ← start n words
          let s ← get
          let late := mine && s.world.deadline.isNone
          if mine then set { s with world := { s.world with deadline := outer } }
          let killing := last? 's' options = some "KILL".toList || last? 's' options = some ['9']
          if late && killing then endAs (.signalled 9)
          else if late then
            finish (if has 'p' options then Builtin.statusOf status else 124)
          else endAs status
      | _, _ => misuse "timeout" s!"invalid time interval '{String.ofList first}'" 125

/-! ## Arguments from the input -/

/-- The items in a text: words that may be quoted. Also tells what is wrong with a quote. -/
def items : Nat → Option Bytes → Bytes → List Bytes × Option String
  | 0, _, _ => ([], none)
  | _ + 1, item, [] => (item.toList.map List.reverse, none)
  | fuel + 1, item, c :: rest =>
    if c = ' ' || c = '\t' || c = '\n' then
      let (others, mistake) := items fuel none rest
      (item.toList.map List.reverse ++ others, mistake)
    else if c = '\'' || c = '"' then
      let (inner, rest) := rest.span fun d => d ≠ c && d ≠ '\n'
      match rest with
      | d :: rest =>
        if d = c then items fuel (some (inner.reverse ++ item.getD [])) rest
        else ([], some (unmatched c))
      | [] => ([], some (unmatched c))
    else
      match c, rest with
      | '\\', d :: rest => items fuel (some (d :: item.getD [])) rest
      | c, rest => items fuel (some (c :: item.getD [])) rest
where
  unmatched (c : Char) : String :=
    "unmatched " ++ (if c = '"' then "double" else "single") ++
      " quote; by default quotes are special to xargs unless you use the -0 option"

def batches {α : Type} (size : Nat) : Nat → List α → List (List α)
  | 0, _ => []
  | _ + 1, [] => []
  | fuel + 1, xs => xs.take size :: batches size fuel (xs.drop size)

def replaceAll (mark text : Bytes) : Nat → Bytes → Bytes
  | 0, word => word
  | _ + 1, [] => []
  | fuel + 1, c :: rest =>
    if !mark.isEmpty && mark.isPrefixOf (c :: rest) then
      text ++ replaceAll mark text fuel ((c :: rest).drop mark.length)
    else c :: replaceAll mark text fuel rest

def xargs : Launcher := fun start arguments => do
  let allowed := letters "0rtxpo" "nILdPsaE" ++
    flags [('0', "null"), ('r', "no-run-if-empty"), ('t', "verbose")] ++
    settings [('n', "max-args"), ('d', "delimiter"), ('P', "max-procs"), ('L', "max-lines"),
      ('a', "arg-file")]
  let arguments := arguments.map fun cs => if cs = ['-', 'i'] then "-I\x7b\x7d".toList else cs
  withLeading "xargs" allowed 1 arguments fun options words => do
    let command := if words.isEmpty then ["echo".toList] else words
    let number? (letter : Char) : Option Nat := (last? letter options).bind Number.decimal?
    let delimiter? : Option Char :=
      if has '0' options then some '\x00'
      else (last? 'd' options).map fun text =>
        match text with
        | '\\' :: rest => (escape rest).1
        | c :: _ => c
        | [] => '\n'
    let text ← contents ((last? 'a' options).getD ['-'])
    let text := match text with
      | .ok text => text
      | .error _ => []
    let split (c : Char) : List Bytes :=
      let parts := text.splitOn c
      if parts.getLast? = some [] then parts.dropLast else parts
    let (groups, mistake) : List (List Bytes) × Option String :=
      match delimiter?, last? 'I' options, number? 'L' with
      | some c, some _, _ => ((split c).map fun part => [part], none)
      | none, some _, _ =>
        let rows := (lines text).map fun line => line.dropWhile fun c => c = ' ' || c = '\t'
        ((rows.filter (!·.isEmpty)).map fun line =>
          [(items (line.length + 1) none (line.flatMap fun c =>
            if c = ' ' || c = '\t' then ['\\', c] else [c])).1.flatten], none)
      | none, none, some size =>
        let rows := (lines text).map fun line => (items (line.length + 1) none line).1
        ((batches size (rows.length + 1) (rows.filter (!·.isEmpty))).map List.flatten, none)
      | delimiter?, _, _ =>
        let (found, mistake) := match delimiter? with
          | some c => (split c, none)
          | none => items (text.length + 1) none text
        (batches ((number? 'n').getD 5000) (found.length + 1) found, mistake)
    let groups :=
      if groups.isEmpty && mistake.isNone && !has 'r' options && !has 'I' options then [[]]
      else groups
    if number? 'n' = some 0 then misuse "xargs" "value 0 for -n option should be >= 1"
    else
      match mistake with
      | some text =>
        warn s!"xargs: {text}\n"
        finish 1
      | none => pure ()
      let mut stopped := false
      for group in groups do
        if !stopped then
          let words := match last? 'I' options with
            | some mark =>
              let item := group.flatten
              command.take 1 ++ (command.drop 1).map fun word =>
                replaceAll mark item (word.length + 1) word
            | none => command ++ group
          if has 't' options then warn (String.ofList ([' '].intercalate words) ++ "\n")
          stopped ← run start words
where
  /-- Runs the program once, and tells whether no more are to be run. -/
  run (start : Start) (words : List Bytes) : Action Bool := do
    let name := String.ofList (words.head?.getD [])
    match ← locate (words.head?.getD []) with
    | .error trouble =>
      refuse "xargs" s!"{name}: {trouble.text}" (unstarted trouble)
      return true
    | .ok n =>
      let before := (← get).descriptors
      match ← openFile .read "/dev/null".toList with
      | .ok stream => modify (·.connect 0 stream)
      | .error _ => pure ()
      let status ← start n words
      modify fun s => { s with descriptors := before }
      match status with
      | .signalled signal =>
        refuse "xargs" s!"{name}: terminated by signal {signal}" 125
        return true
      | .exited 255 =>
        refuse "xargs" s!"{name}: exited with status 255; aborting" 124
        return true
      | .exited 0 => return false
      | .exited _ =>
        finish 123
        return false

end Precedence.Shell.Tool

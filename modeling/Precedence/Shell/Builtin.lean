import Precedence.Shell.Field
import Precedence.Shell.Format
import Precedence.Shell.Question

namespace Precedence.Shell

abbrev Builtin := List Bytes → Action Unit

namespace Builtin

def say (text : Bytes) : Action Unit := do
  let s ← get
  match s.write 1 text with
  | (none, s) => set s
  | (some _, s) =>
    set s
    let name := String.ofList (s.command.getD [])
    complain s!"{name}: I/O error"
    finish 1

def sayLine (text : String) : Action Unit := say (text ++ "\n").toList

/-- The number that an argument stands for, if it is one that counts something. -/
def count? (cs : Bytes) : Option Nat :=
  match Number.whole? false cs with
  | some (n : Nat) => if n < Nat.pow 2 31 then some n else none
  | _ => none

def illegalNumber (cs : Bytes) : Action Unit := fail s!"Illegal number: {String.ofList cs}"

def withCount (cs : Bytes) (next : Nat → Action Unit) : Action Unit :=
  match count? cs with
  | some n => next n
  | none => illegalNumber cs

/-- The options at the front of arguments, each with its text, and what follows; or what is wrong
with them. Letters with a colon behind them take a text. -/
def options (allowed : Bytes) : Nat → List Bytes → Except String (List (Char × Bytes) × List Bytes)
  | 0, arguments => .ok ([], arguments)
  | fuel + 1, arguments =>
    match arguments with
    | ['-', '-'] :: rest => .ok ([], rest)
    | ('-' :: letter :: letters) :: rest => do
      if letter = ':' || letter ∉ allowed then .error ("Illegal option -" ++ .ofList [letter])
      else
        let takesText := (allowed.dropWhile (· ≠ letter))[1]? = some ':'
        let (text, rest) ←
          if !takesText then
            pure ([], if letters.isEmpty then rest else ('-' :: letters) :: rest)
          else if !letters.isEmpty then pure (letters, rest)
          else
            match rest with
            | text :: rest => pure (text, rest)
            | [] => .error ("No arg for -" ++ .ofList [letter] ++ " option")
        let (others, rest) ← options allowed fuel rest
        return ((letter, text) :: others, rest)
    | _ => .ok ([], arguments)

def withOptions (allowed : String) (arguments : List Bytes)
    (next : List (Char × Bytes) → List Bytes → Action Unit) : Action Unit :=
  match options allowed.toList (arguments.flatten.length + arguments.length + 1) arguments with
  | .ok (found, rest) => next found rest
  | .error text => fail text

def quoted (cs : Bytes) : Bytes :=
  let parts := cs.splitOn '\''
  let word (part : Bytes) : Bytes := '\'' :: part ++ ['\'']
  let rec join : List Bytes → Bytes
    | [] => []
    | [part] => if part.isEmpty && parts.length > 1 then [] else word part
    | part :: rest =>
      (if part.isEmpty then [] else word part) ++ "\"'\"".toList ++ join rest
  join parts

/-! ## Output -/

def echo : Builtin := fun arguments => do
  let (newline, arguments) := match arguments with
    | ['-', 'n'] :: rest => (false, rest)
    | _ => (true, arguments)
  let text := [' '].intercalate arguments
  let (text, ended) := unescape (text.length + 1) text
  finish 0
  say (if newline && !ended then text ++ ['\n'] else text)

def printf : Builtin := fun arguments =>
  withOptions "" arguments fun _ arguments => do
    match arguments with
    | [] => fail "usage: printf format [arg ...]"
    | format :: arguments =>
      let printed := formatted format arguments
      finish (if printed.complaints.isEmpty then 0 else 1)
      say printed.text
      for text in printed.complaints.reverse do complain text
      match printed.mistake with
      | some text => fail text
      | none => pure ()

def pwd : Builtin := fun arguments =>
  withOptions "LP" arguments fun found _ => do
    let s ← get
    finish 0
    let physical := (found.getLast?.map Prod.fst) = some 'P'
    say ((if physical then s.world.files.truePath s.place else s.here) ++ ['\n'])

def question (name : String) : Builtin := fun arguments => do
  let ask (words : List Bytes) : Action Unit := do
    match Question.answer (← get) words with
    | .ok answer => finish (if answer then 0 else 1)
    | .error text => fail text
  if name = "[" then
    if arguments.getLast? = some [']'] then ask arguments.dropLast else fail "missing ]"
  else ask arguments

/-! ## Directories -/

/-- The path of a directory as one goes there by a path, without looking at the links on the
way. -/
def goneTo (here path : Bytes) : Bytes :=
  let start := if path.head? = some '/' then [] else (here.splitOn '/').filter (!·.isEmpty)
  let parts := (path.splitOn '/').foldl (fun parts part =>
    if part.isEmpty || part = ['.'] then parts
    else if part = ['.', '.'] then parts.dropLast
    else parts ++ [part]) start
  let double := match path with
    | '/' :: '/' :: '/' :: _ => false
    | '/' :: '/' :: _ => true
    | _ => path.head? ≠ some '/' && "//".toList.isPrefixOf here
  (if double then ['/'] else []) ++ '/' :: ['/'].intercalate parts

def exportValue (name : String) (value : Bytes) : Action Unit :=
  modify fun s => s.putVariable name.toList (some ⟨some value, true, false⟩)

def enter (physical : Bool) (path : Bytes) : Action Bool := do
  let s ← get
  let files := s.world.files
  let target := if physical then path else goneTo s.here path
  match files.find s.place target with
  | .error _ => return false
  | .ok n =>
    if !(files.get n).isDirectory then return false
    let here := if physical then files.truePath n else target
    exportValue "OLDPWD" s.here
    exportValue "PWD" here
    modify fun s => { s with place := n, here }
    return true

def cd : Builtin := fun arguments =>
  withOptions "LP" arguments fun found arguments => do
    let s ← get
    let physical := (found.getLast?.map Prod.fst) = some 'P'
    let back := arguments.head? = some ['-']
    let path := match arguments with
      | [] => s.value "HOME"
      | path :: _ => if back then s.value "OLDPWD" else path
    let isDirectory (path : Bytes) : Bool :=
      match s.world.files.find s.place path with
      | .ok n => (s.world.files.get n).isDirectory
      | .error _ => false
    let direct := path.head? = some '/' ||
      ((path.splitOn '/').head?.map fun part => part = ['.'] || part = ['.', '.']) = some true
    let path := if path.isEmpty then ['.'] else path
    let candidates := if direct then [] else
      ((s.value "CDPATH").splitOn ':').filter (!·.isEmpty)
    let found := (candidates.map fun root => root ++ '/' :: path).find? isDirectory
    finish 0
    if ← enter physical (found.getD path) then
      if back || found.isSome then say ((← get).here ++ ['\n'])
    else fail s!"can't cd to {String.ofList path}"

/-! ## The course of the shell -/

def exit : Builtin := fun arguments => do
  let leave (status : Nat) : Action Unit := modify fun s => { s with status, flow := .exited }
  match arguments with
  | [] => leave ((← get).before.getD (← get).status)
  | n :: _ => withCount n leave

def returns : Builtin := fun arguments => do
  let leave (status : Nat) : Action Unit := modify fun s => { s with status, flow := .returned }
  match arguments with
  | [] => leave (← get).status
  | n :: _ => withCount n leave

def leaveLoops (flow : Nat → Flow) : Builtin := fun arguments =>
  withCount (arguments.head?.getD ['1']) fun n => do
    if n = 0 then illegalNumber (arguments.head?.getD [])
    else
      finish 0
      let loops := (← get).loops
      if loops ≠ 0 then modify fun s => { s with flow := flow (min n loops - 1) }

def shift : Builtin := fun arguments =>
  withCount (arguments.head?.getD ['1']) fun n => do
    let s ← get
    if s.parameters.length < n then fail "can't shift that many"
    else set { s with parameters := s.parameters.drop n, status := 0 }

/-! ## Variables -/

/-- The name and the value of an argument, if it has the form of an assignment. -/
def binding (cs : Bytes) : Bytes × Option Bytes :=
  match cs.span (· ≠ '=') with
  | (name, _ :: value) => (name, some value)
  | _ => (cs, none)

def badName (name : Bytes) : Action Unit := fail s!"{String.ofList name}: bad variable name"

def sorted (s : State) : List (Bytes × Variable) :=
  s.bindings.mergeSort fun a b => Bytes.le a.1 b.1

/-- Gives properties to variables, or lists those that have them. -/
def mark (word : String) (has : Variable → Bool) (give : Variable → Variable) : Builtin :=
  fun arguments => withOptions "p" arguments fun found names => do
    finish 0
    if names.isEmpty || !found.isEmpty then
      for (name, entry) in sorted (← get) do
        if has entry then
          let value := (entry.value.map fun value => '=' :: quoted value).getD []
          say (word.toList ++ ' ' :: name ++ value ++ ['\n'])
    else
      for argument in names do
        whenNext do
          let (name, value) := binding argument
          if !isName name then badName name
          else
            match value with
            | some value => assign name value
            | none => pure ()
            whenNext do
              let s ← get
              let entry := (s.lookup? name).getD ⟨none, false, false⟩
              set (s.putVariable name (some (give entry)))

def exports : Builtin :=
  mark "export" Variable.exported fun entry => { entry with exported := true }

def readonly : Builtin :=
  mark "readonly" Variable.readonly fun entry => { entry with readonly := true }

def locals : Builtin := fun arguments => do
  finish 0
  if (← get).depth = 0 then fail "not in a function"
  else
    for argument in arguments do
      whenNext do
        let (name, value) := binding argument
        if argument = ['-'] then
          -- The options that are set now come back at the end of the function.
          modify fun s =>
            match s.locals with
            | frame :: rest =>
              { s with locals := ((name, some ⟨some s.options, false, false⟩) :: frame) :: rest }
            | [] => s
        else if !isName name then badName name
        else
          modify fun s =>
            match s.locals with
            | frame :: rest =>
              if frame.any (·.1 = name) then s
              else { s with locals := ((name, s.lookup? name) :: frame) :: rest }
            | [] => s
          match value with
          | some value => assign name value
          | none => pure ()

def unset : Builtin := fun arguments =>
  withOptions "fv" arguments fun found names => do
    finish 0
    let functions := (found.getLast?.map Prod.fst) = some 'f'
    for name in names do
      whenNext do
        let s ← get
        if functions then set { s with functions := s.functions.filter (·.1 ≠ name) }
        else if !isName name then badName name
        else if ((s.lookup? name).map Variable.readonly) = some true then
          fail s!"{String.ofList name}: is read only"
        else set (s.putVariable name none)

/-! ## Options -/

/-- The names of the options, with their letters. The last ones have none, and a character that is
not shown stands for it. -/
def optionNames : List (String × Char) :=
  [("errexit", 'e'), ("noglob", 'f'), ("ignoreeof", 'I'), ("interactive", 'i'), ("monitor", 'm'),
    ("noexec", 'n'), ("stdin", 's'), ("xtrace", 'x'), ("verbose", 'v'), ("vi", 'V'), ("emacs", 'E'),
    ("noclobber", 'C'), ("allexport", 'a'), ("notify", 'b'), ("nounset", 'u'),
    ("privileged", 'p'), ("nolog", '\x01'), ("debug", '\x02')]

/-- The letters of options in the order in which they are listed. -/
def ordered (letters : List Char) : List Char :=
  (optionNames.map Prod.snd).reverse.filter (· ∈ letters)

def setOption (letter : Char) (on : Bool) : Action Unit :=
  modify fun s =>
    let others := s.options.filter (· ≠ letter)
    { s with options := ordered (if on then letter :: others else others) }

/-- Sets the options that a word stands for, with the word behind it for those that have names. What
is wrong is told, or else whether the other word was used. -/
def applyOptions (on : Bool) : Bytes → Option Bytes → Action (Except String Bool)
  | [], _ => return .ok false
  | 'o' :: letters, some name => do
    match optionNames.lookup (.ofList name) with
    | some letter =>
      setOption letter on
      match ← applyOptions on letters none with
      | .ok _ => return .ok true
      | .error text => return .error text
    | none => return .error ("Illegal option -o " ++ String.ofList name)
  | 'o' :: letters, none => do
    if on then sayLine "Current option settings"
    for (name, letter) in optionNames do
      let isOn := (← get).option letter
      if on then sayLine (.ofList (pad true ' ' 16 name.toList) ++ if isOn then "on" else "off")
      else sayLine ((if isOn then "set -o " else "set +o ") ++ name)
    applyOptions on letters none
  | letter :: letters, name => do
    if (optionNames.map Prod.snd).contains letter then
      setOption letter on
      applyOptions on letters name
    else return .error ("Illegal option -" ++ .ofList [letter])

def setFrom : Nat → Builtin
  | 0, _ => pure ()
  | fuel + 1, arguments => do
    let replace (parameters : List Bytes) : Action Unit := modify fun s => { s with parameters }
    let apply (on : Bool) (letters : Bytes) (rest : List Bytes) : Action Unit := do
      match ← applyOptions on letters rest.head? with
      | .error text => fail text
      | .ok used => setFrom fuel (if used then rest.drop 1 else rest)
    match arguments with
    | [] => pure ()
    | ['-', '-'] :: rest => replace rest
    | ['-'] :: rest =>
      setOption 'x' false
      setOption 'v' false
      if !rest.isEmpty then replace rest
    | ('-' :: letters) :: rest => apply true letters rest
    | ('+' :: letters) :: rest => apply false letters rest
    | _ => replace arguments

def sets : Builtin := fun arguments => do
  finish 0
  if arguments.isEmpty then
    for (name, entry) in sorted (← get) do
      match entry.value with
      | some value => say (name ++ '=' :: quoted value ++ ['\n'])
      | none => pure ()
  else setFrom (arguments.length + 1) arguments

/-! ## Signals and processes -/

def signalNames : List String :=
  ["EXIT", "HUP", "INT", "QUIT", "ILL", "TRAP", "ABRT", "BUS", "FPE", "KILL", "USR1", "SEGV",
    "USR2", "PIPE", "ALRM", "TERM", "STKFLT", "CHLD", "CONT", "STOP", "TSTP", "TTIN", "TTOU", "URG",
    "XCPU", "XFSZ", "VTALRM", "PROF", "WINCH", "IO", "PWR", "SYS"]

/-- What is told about a process that a signal has ended; of an end by some signals nothing is. -/
def endings : List (Nat × String) :=
  [(1, "Hangup"), (3, "Quit"), (4, "Illegal instruction"), (5, "Trace/breakpoint trap"),
    (6, "Aborted"), (7, "Bus error"), (8, "Floating point exception"), (9, "Killed"),
    (10, "User defined signal 1"), (11, "Segmentation fault"), (12, "User defined signal 2"),
    (14, "Alarm clock"), (15, "Terminated"), (16, "Stack fault"), (24, "CPU time limit exceeded"),
    (25, "File size limit exceeded"), (26, "Virtual timer expired"),
    (27, "Profiling timer expired"), (29, "I/O possible"), (30, "Power failure"),
    (31, "Bad system call")]

/-- Signals that do nothing to a process that does not handle them. -/
def harmless : List Nat := [0, 17, 18, 19, 20, 21, 22, 23, 28]

def signal? (cs : Bytes) : Option Nat :=
  match Number.decimal? cs with
  | some n => if n < 65 then some n else none
  | none => signalNames.idxOf? (String.ofList (cs.map Char.toUpper))

def trap : Builtin := fun arguments =>
  withOptions "" arguments fun _ arguments => do
    finish 0
    let isNumber (cs : Bytes) : Bool := ((Number.decimal? cs).filter (· < 65)).isSome
    match arguments with
    | [] =>
      for (n, action) in (← get).traps.mergeSort fun a b => decide (a.1 ≤ b.1) do
        let name := (signalNames[n]?).getD (toString n)
        sayLine s!"trap -- {String.ofList (quoted action)} {name}"
    | first :: rest =>
      let (action, signals) := if rest.isEmpty || isNumber first then (['-'], arguments)
        else (first, rest)
      for name in signals do
        if (← get).status = 0 then
          match signal? name with
          | none =>
            warn s!"trap: {String.ofList name}: bad trap\n"
            finish 1
          | some n => modify fun s =>
            let others := s.traps.filter (·.1 ≠ n)
            { s with traps := if action = ['-'] then others else (n, action) :: others }

def send (signal process : Nat) : Action Bool := do
  let s ← get
  match s.background.find? (·.process = process) with
  | some job =>
    match job.progress with
    | .ended _ => return true
    | .waiting _ =>
      if signal ∉ harmless then
        let background := s.background.map fun other =>
          if other.process = process then { other with progress := .ended (.signalled signal) }
          else other
        set { s with background }
      return true
  | none =>
    if process = s.process || process = s.root || process = s.parent || process = 0 then
      let target := if process = 0 then s.root else process
      if signal ≠ 0 then
        set { s with world := { s.world with signals := s.world.signals ++ [(target, signal)] } }
      return true
    else return false

def killUsage : Action Unit :=
  fail "Usage: kill [-s sigspec | -signum | -sigspec] [pid | job]... or\nkill -l [exitstatus]"

/-- The process of a command in the background by its number. -/
def job? (s : State) (cs : Bytes) : Option Nat := do
  let jobs := s.background.reverse
  let job ← match cs with
    | '%' :: digits =>
      match Number.decimal? digits with
      | some n => if n = 0 then none else jobs[n - 1]?
      | none => if digits.isEmpty || digits = ['%'] || digits = ['+'] then jobs.getLast? else none
    | _ => none
  return job.process

def sendAll (signal : Nat) (targets : List Bytes) : Action Unit := do
  finish 0
  for target in targets do
    whenNext do
      let sendTo (process : Nat) : Action Unit := do
        if !(← send signal process) then
          complain "No such process\n"
          finish 1
      match target with
      | '%' :: _ =>
        match job? (← get) target with
        | some process => sendTo process
        | none => fail s!"No such job: {String.ofList target}"
      | '-' :: digits =>
        withCount digits fun _ => do
          complain "No such process\n"
          finish 1
      | _ => withCount target sendTo

def listSignals (arguments : List Bytes) : Action Unit := do
  finish 0
  match arguments with
  | [] =>
    sayLine "0"
    for name in signalNames.drop 1 do sayLine name
  | first :: _ =>
    withCount first fun n => do
      match signalNames[if n > 128 then n - 128 else n]? with
      | some name =>
        if n = 0 then fail s!"invalid signal number or exit status: {n}" else sayLine name
      | none => fail s!"invalid signal number or exit status: {n}"

def kill : Builtin := fun arguments => do
  match arguments with
  | [] => killUsage
  | ('-' :: name) :: rest =>
    match if name.isEmpty then none else signal? name with
    | some signal => if rest.isEmpty then killUsage else sendAll signal rest
    | none =>
      withOptions "ls:" arguments fun found targets => do
        if found.any (·.1 = 'l') then listSignals targets
        else if targets.isEmpty then killUsage
        else
          match found.getLast? with
          | none => sendAll 15 targets
          | some (_, name) =>
            match signal? name with
            | some signal => sendAll signal targets
            | none => fail s!"invalid signal number or name: {String.ofList name}"
  | targets => sendAll 15 targets

/-- The commands in the background that have not ended, with the times at which they will. -/
def upcoming (s : State) : List (Nat × Background × (World → World × ExitStatus)) :=
  s.background.reverse.filterMap fun job =>
    match job.progress with
    | .ended _ => none
    | .waiting run => some ((run { s.world with clock := job.started }).1.clock, job, run)

/-- Lets the commands in the background go on up to a time, or to their ends. Those that end first
go first. -/
def settle (time : Option Nat) : Action Unit := do
  let due := (upcoming (← get)).filter fun (stop, _, _) =>
    match time with
    | some time => stop ≤ time
    | none => true
  for (_, job, run) in due.mergeSort fun a b => decide (a.1 ≤ b.1) do
    modify fun s =>
      let (world, status) := run { s.world with clock := job.started }
      { s with
        world := { world with clock := max s.world.clock world.clock }
        background := s.background.map fun other =>
          if other.process = job.process then { other with progress := .ended status } else other }

def statusOf : ExitStatus → Nat
  | .exited code => code.toNat
  | .signalled signal => 128 + signal

def report : ExitStatus → Action Unit
  | .exited _ => pure ()
  | .signalled signal =>
    match endings.lookup signal with
    | some text => warn (text ++ "\n")
    | none => pure ()

def wait : Builtin := fun arguments =>
  withOptions "" arguments fun _ arguments => do
    finish 0
    if arguments.isEmpty then
      settle none
    for argument in arguments do
      whenNext do
        let await (process : Option Nat) : Action Unit := do
          match (upcoming (← get)).find? fun (_, job, _) => some job.process = process with
          | some (stop, _, _) => settle (some stop)
          | none => pure ()
          match (← get).background.find? (some ·.process = process) with
          | some ⟨_, _, .ended status⟩ =>
            report status
            finish (statusOf status)
          | _ => finish 127
        match argument with
        | '%' :: _ =>
          match job? (← get) argument with
          | some process => await (some process)
          | none => fail s!"No such job: {String.ofList argument}"
        | _ => withCount argument fun process => await (some process)

/-! ## Input and arguments -/

/-- A line of the standard input, whose characters may be marked by a backslash, and whether it was
ended. -/
def readLine (raw : Bool) : Nat → List (Char × Bool) → Action (List (Char × Bool) × Bool)
  | 0, before => return (before, false)
  | fuel + 1, before => do
    let (text, ended, s) := (← get).readTo 0 '\n'
    set s
    let text := text.filter (· ≠ '\x00')
    let rec unmarked : Bytes → List (Char × Bool) × Bool
      | [] => ([], false)
      | ['\\'] => ([], true)
      | '\\' :: c :: rest => let (rest, pending) := unmarked rest; ((c, false) :: rest, pending)
      | c :: rest => let (rest, pending) := unmarked rest; ((c, true) :: rest, pending)
    if raw then return (before ++ text.map (·, true), ended)
    else
      match unmarked text, ended with
      | (line, true), true => readLine raw fuel (before ++ line)
      | (line, _), _ => return (before ++ line, ended)

def read : Builtin := fun arguments =>
  withOptions "rp:" arguments fun found names => do
    if names.isEmpty then fail "arg count"
    else
      let (line, ended) ← readLine (found.any (·.1 = 'r')) 1000 []
      finish (if ended then 0 else 1)
      let values := shares (← get).separators names.length line
      for (name, n) in names.zipIdx do
        whenNext do
          if isName name then assign name ((values[n]?).getD []) else badName name

/-- What is left of the letters of an argument with options, or the next argument. -/
def getopts : Builtin := fun arguments => do
  match arguments with
  | allowed :: name :: given =>
    let s ← get
    let words := if given.isEmpty then s.parameters else given
    let index := ((Number.decimal? (s.value "OPTIND")).getD 1) - 1
    let silent := allowed.head? = some ':'
    let (letters, index) : Option Bytes × Nat := match s.letters.filter (!·.isEmpty) with
      | some letters => (some letters, index)
      | none =>
        match words[index]? with
        | some ['-', '-'] => (none, index + 1)
        | some ('-' :: c :: letters) => (some (c :: letters), index + 1)
        | _ => (none, index)
    let done (letter : Char) (letters : Option Bytes) (index status : Nat) : Action Unit := do
      assign "OPTIND".toList (Number.text (index + 1))
      modify fun s => { s with letters }
      finish status
      whenNext (if isName name then assign name [letter] else badName name)
    match letters with
    | none | some [] => done '?' none index 1
    | some (c :: letters) =>
      let spec := if c = ':' then [] else allowed.dropWhile (· ≠ c)
      match spec with
      | [] =>
        if silent then assign "OPTARG".toList [c]
        else
          warn s!"Illegal option -{String.ofList [c]}\n"
          modify fun s => s.putVariable "OPTARG".toList none
        done '?' (some letters) index 0
      | _ :: ':' :: _ =>
        if !letters.isEmpty then
          assign "OPTARG".toList letters
          done c none index 0
        else
          match words[index]? with
          | some text =>
            assign "OPTARG".toList text
            done c none (index + 1) 0
          | none =>
            if silent then
              assign "OPTARG".toList [c]
              done ':' none index 0
            else
              warn s!"No arg for -{String.ofList [c]} option\n"
              modify fun s => s.putVariable "OPTARG".toList none
              done '?' none index 0
      | _ =>
        assign "OPTARG".toList []
        done c (some letters) index 0
  | _ => fail "Usage: getopts optstring var [arg...]"

/-! ## Other commands -/

def permissions (letters : Bytes) : Nat :=
  let bit (c : Char) : Nat := if c = 'r' then 4 else if c = 'w' then 2 else if c = 'x' then 1 else 0
  letters.foldl (fun n c => n ||| bit c) 0

/-- A mode after a change such as `u+x,go-w`; `conditional` is what `X` stands for. -/
def changeMode (mode mask conditional : Nat) (cs : Bytes) : Option Nat :=
  match Number.natural? 8 cs with
  | some n => some (n % 0o10000)
  | none =>
    (cs.splitOn ',').foldlM (fun mode clause => do
      let (who, rest) := clause.span fun c => c ∈ "ugoa".toList
      let classes := if who.isEmpty || 'a' ∈ who then ['u', 'g', 'o'] else who
      match rest with
      | operator :: letters =>
        if operator ∉ "+-=".toList || letters.any (· ∉ "rwxXstugo".toList) then none
        else
          let bits := permissions letters ||| (if 'X' ∈ letters then conditional else 0)
          let spread (of : Nat) : Nat := classes.foldl (fun n c =>
            n ||| (of <<< (if c = 'u' then 6 else if c = 'g' then 3 else 0))) 0
          let special := (if 's' ∈ letters && 'u' ∈ classes then 0o4000 else 0) |||
            (if 's' ∈ letters && 'g' ∈ classes then 0o2000 else 0) |||
            (if 't' ∈ letters then 0o1000 else 0)
          let change :=
            (spread bits ||| special) &&& (if who.isEmpty then 0o7777 ^^^ mask else 0o7777)
          match operator with
          | '+' => some (mode ||| change)
          | '-' => some (mode &&& (0o7777 ^^^ change))
          | _ => some ((mode &&& (0o7777 ^^^ spread 7)) ||| change)
      | [] => none) mode

def octalText (n : Nat) : String :=
  .ofList (pad false '0' 4 (Nat.toDigits 8 n))

def umask : Builtin := fun arguments =>
  withOptions "S" arguments fun found arguments => do
    finish 0
    let mask := (← get).mask
    match arguments with
    | [] =>
      if found.isEmpty then sayLine (octalText mask)
      else
        let letters (n : Nat) : String := (if n &&& 4 = 0 then "r" else "") ++
          (if n &&& 2 = 0 then "w" else "") ++ if n &&& 1 = 0 then "x" else ""
        sayLine s!"u={letters (mask >>> 6)},g={letters (mask >>> 3)},o={letters mask}"
    | first :: _ =>
      match Number.natural? 8 first, (first.head?.map Char.isDigit).getD false with
      | some n, _ => modify fun s => { s with mask := n % 0o1000 }
      | none, true => illegalNumber first
      | none, false =>
        match changeMode (0o777 ^^^ mask) 0 0 first with
        | some mode => modify fun s => { s with mask := 0o777 ^^^ (mode % 0o1000) }
        | none => fail s!"Illegal mode: {String.ofList first}"

def ulimit : Builtin := fun arguments => do
  finish 0
  match arguments with
  | [] => sayLine "unlimited"
  | [option] =>
    sayLine (match String.ofList option with
      | "-c" => "0"
      | "-n" => "1024"
      | "-s" => "8192"
      | _ => "unlimited")
  | _ :: limit :: _ =>
    if (Number.decimal? limit).isNone && limit ≠ "unlimited".toList then fail "bad number"

def times : Builtin := fun _ => do
  finish 0
  sayLine "0m0.000000s 0m0.000000s"
  sayLine "0m0.000000s 0m0.000000s"

def setAlias : Builtin := fun arguments => do
  finish 0
  let tell (name value : Bytes) : Action Unit := say (name ++ '=' :: quoted value ++ ['\n'])
  if arguments.isEmpty then
    for (name, value) in (← get).aliases do tell name value
  for argument in arguments do
    match binding argument with
    | (name, some value) => modify fun s =>
      { s with aliases := (name, value) :: s.aliases.filter (·.1 ≠ name) }
    | (name, none) =>
      match (← get).aliases.lookup name with
      | some value => tell name value
      | none =>
        warn s!"alias: {String.ofList name} not found\n"
        finish 1

def unalias : Builtin := fun arguments =>
  withOptions "a" arguments fun found names => do
    finish 0
    if !found.isEmpty then modify fun s => { s with aliases := [] }
    for name in names do
      let s ← get
      if (s.aliases.lookup name).isNone then
        warn s!"unalias: {String.ofList name} not found\n"
        finish 1
      else set { s with aliases := s.aliases.filter (·.1 ≠ name) }

/-- The commands of the shell for which there are no programs. -/
def ownNames : List String :=
  [".", ":", "alias", "bg", "break", "cd", "chdir", "command", "continue", "eval", "exec", "exit",
    "export", "fg", "getopts", "hash", "jobs", "local", "read", "readonly", "return", "set",
    "shift", "times", "trap", "type", "ulimit", "umask", "unalias", "unset", "wait"]

/-- Remembers where programs are, or lists those that are remembered. -/
def hash : Builtin := fun arguments =>
  withOptions "rv" arguments fun found names => do
    finish 0
    if found.any (·.1 = 'r') then modify fun s => { s with tracked := [] }
    else if names.isEmpty then
      for path in (← get).tracked do say (path ++ ['\n'])
    for name in names do
      let s ← get
      let isKnown := String.ofList name ∈ ownNames || (s.functions.lookup name).isSome
      match s.program? name with
      | some (path, _) =>
        if !isKnown then set (s.track path)
      | none =>
        if !isKnown then
          complain s!"{String.ofList name}: not found"
          finish 1

def noJob : Builtin := fun _ => fail "No current job"

/-- Lists the commands in the background, the latest first, and forgets those that have ended. -/
def jobs : Builtin := fun arguments =>
  withOptions "lp" arguments fun found _ => do
    finish 0
    let numbered := (← get).background.reverse.zipIdx.reverse
    for ((job, n), k) in numbered.zipIdx do
      let state := match job.progress with
        | .waiting _ => "Running"
        | .ended (.exited 0) => "Done"
        | .ended (.exited code) => s!"Done({code})"
        | .ended (.signalled signal) => (endings.lookup signal).getD ""
      let mark := if k = 0 then "+" else if k = 1 then "-" else " "
      let process := if found.any (·.1 = 'l') then toString job.process ++ " " else ""
      if found.any (·.1 = 'p') then sayLine (toString job.process)
      else say (pad true ' ' 33 (s!"[{n + 1}] {mark} {process}{state}").toList ++ ['\n'])
    modify fun s =>
      { s with background := s.background.filter fun job => match job.progress with
          | .waiting _ => true
          | .ended _ => false }

def ofStatus (status : Nat) : Builtin := fun _ => finish status

def ofName? (name : Bytes) : Option Builtin :=
  match String.ofList name with
  | ":" | "true" => some (ofStatus 0)
  | "false" => some (ofStatus 1)
  | "[" => some (question "[")
  | "alias" => some setAlias
  | "bg" | "fg" => some noJob
  | "break" => some (leaveLoops .broken)
  | "cd" | "chdir" => some cd
  | "continue" => some (leaveLoops .continued)
  | "echo" => some echo
  | "exit" => some exit
  | "export" => some exports
  | "getopts" => some getopts
  | "hash" => some hash
  | "jobs" => some jobs
  | "kill" => some kill
  | "local" => some locals
  | "printf" => some printf
  | "pwd" => some pwd
  | "read" => some read
  | "readonly" => some readonly
  | "return" => some returns
  | "set" => some sets
  | "shift" => some shift
  | "test" => some (question "test")
  | "times" => some times
  | "trap" => some trap
  | "ulimit" => some ulimit
  | "umask" => some umask
  | "unalias" => some unalias
  | "unset" => some unset
  | "wait" => some wait
  | _ => none

end Builtin

end Precedence.Shell

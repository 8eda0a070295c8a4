import Precedence.Shell.Arithmetic
import Precedence.Shell.Glob
import Precedence.Shell.Reader
import Precedence.Shell.Tool
/-!
# Running shell commands

A script is run line by line, so the lines above a mistake are run before it is found. The commands
of a pipeline are run one after the other, each with the output of the one before it as its input,
and a command in the background is run when the shell waits for it or ends. A shell that has taken
more steps than its fuel allows ends with status 1.
-/

namespace Precedence.Shell

namespace Word

/-- The home directory of a user, or that of the shell where no user is named. -/
def home? (s : State) (user : Bytes) : Option Bytes :=
  if user.isEmpty then s.value? "HOME".toList
  else if user = "root".toList then some "/root".toList
  else none

/-- A word with the home directory in the place of a tilde at its start. With `assigned`, a tilde
may also follow a colon, and a colon ends the name of the user. -/
def atHome (s : State) (assigned : Bool) : Nat → Word → Word
  | 0, word => word
  | fuel + 1, word =>
    let ends (c : Char) : Bool := c = '/' || (assigned && c = ':')
    let started : Word × Word :=
      match word with
      | .char '~' false :: rest =>
        let (user, after) := rest.span fun
          | .char c false => !ends c
          | _ => false
        let ended := match after with
          | [] => true
          | .char c false :: _ => ends c
          | _ => false
        match if ended then home? s (literal user) else none with
        | some path => (path.map fun c => .char c true, after)
        | none => (.char '~' false :: user, after)
      | _ => ([], word)
    if !assigned then started.1 ++ started.2
    else
      let (front, rest) := started.2.span fun
        | .char ':' false => false
        | _ => true
      match rest with
      | colon :: rest => started.1 ++ front ++ colon :: atHome s assigned fuel rest
      | [] => started.1 ++ front

end Word

namespace State

/-- The parameters of the shell as pieces: as fields of their own, or joined where the word is not
split. -/
def parameterPieces (s : State) (name : Char) (quoted full : Bool) : List Piece :=
  let pieces (cs : Bytes) : List Piece := cs.map fun c => Piece.char c quoted (!quoted)
  let joined : List Piece :=
    let separator := match s.value? "IFS".toList with
      | none => [' ']
      | some cs => cs.take 1
    pieces (separator.intercalate s.parameters)
  if quoted && full && name = '@' then
    if s.parameters.isEmpty then []
    else .edge true :: [Piece.gap true].intercalate (s.parameters.map pieces)
  else if !quoted && full then
    .edge false :: [Piece.gap false].intercalate (s.parameters.map pieces)
  else if quoted then joined
  else .edge false :: joined

/-- Whether a name is that of a command with rules of its own. -/
def isSpecial (name : Bytes) : Bool := String.ofList name ∈ Reader.reserved

/-- How the process ends that a shell has come to the end of. -/
def ending (s : State) : ExitStatus :=
  match s.flow with
  | .killed signal => .signalled signal
  | _ => .exited (s.status % 256)

/-- Takes note of the end of one turn of a loop, and tells whether there may be another. -/
def turned (s : State) : Bool × State :=
  match s.flow with
  | .next | .continued 0 => (true, { s with flow := .next })
  | .continued (n + 1) => (false, { s with flow := .continued n })
  | .broken 0 => (false, { s with flow := .next })
  | .broken (n + 1) => (false, { s with flow := .broken n })
  | _ => (false, s)

end State

/-- Runs a builtin command under its name. A mistake in one that is not special does not end the
shell. -/
def underName (name : Bytes) (action : Action Unit) : Action Unit := do
  let before := (← get).command
  modify fun s => { s with command := some name }
  action
  modify fun s => { s with command := before }

/-- A shell that has used up its fuel ends, as it does where its time is up. -/
def exhausted : Action Unit := modify fun s =>
  if s.world.deadline.isSome then s.expire else { s with status := 1, flow := .exited }

/-- The keywords and the commands that a name may stand for. -/
def describe (verbose : Bool) (name : Bytes) : Action Unit := do
  let s ← get
  let shown := String.ofList name
  let tell (text : String) (plain : Bytes) : Action Unit :=
    if verbose then Builtin.say (name ++ text.toList ++ ['\n']) else Builtin.say (plain ++ ['\n'])
  let missing : Action Unit := do
    if verbose then Builtin.say (name ++ ": not found\n".toList)
    finish 127
  let isBuiltin := (Builtin.ofName? name).isSome || shown ∈ [".", "eval", "exec", "command", "type"]
  if shown ∈ Reader.keywords then tell " is a shell keyword" name
  else if let some value := s.aliases.lookup name then
    tell s!" is an alias for {String.ofList value}"
      ("alias ".toList ++ name ++ '=' :: Builtin.quoted value)
  else if (s.functions.lookup name).isSome then tell " is a shell function" name
  else if State.isSpecial name then tell " is a special shell builtin" name
  else if isBuiltin then tell " is a shell builtin" name
  else if '/' ∈ name then
    match s.world.files.find s.place name with
    | .ok n =>
      if (s.world.files.get n).isRegular then tell s!" is {shown}" name else missing
    | .error _ => missing
  else
    match s.program? name with
    | some (path, _) =>
      let tracked := if s.tracked.contains path then " a tracked alias for" else ""
      modify fun s => s.track path
      tell s!" is{tracked} {String.ofList path}" path
    | none => missing

def describeAll (verbose : Bool) : Builtin := fun names => do
  finish 0
  for name in names do describe verbose name

structure Invocation where
  script : Option Bytes := none
  input : Bool := false
  name : Option Bytes := none
  parameters : List Bytes := []
  options : List (Bool × Bytes × Option Bytes) := []
  mistake : Option String := none

/-- The invocation with the arguments behind the options. -/
def Invocation.of (asked input : Bool) (options : List (Bool × Bytes × Option Bytes))
    (rest : List Bytes) : Invocation :=
  if asked then
    match rest with
    | [] => { mistake := some "-c requires an argument" }
    | [script] => { script := some script, options }
    | script :: name :: parameters =>
      { script := some script, name := some name, parameters, options }
  else if input then { input, parameters := rest, options }
  else
    match rest with
    | [] => { input := true, options }
    | name :: parameters => { name := some name, parameters, options }

def Invocation.read (asked input : Bool) (options : List (Bool × Bytes × Option Bytes)) :
    Nat → List Bytes → Invocation
  | 0, arguments => .of asked input options arguments
  | _, [] => .of asked input options []
  | fuel + 1, first :: rest =>
    match first with
    | ['-', '-'] | ['-'] => .of asked input options rest
    | sign :: letters =>
      if (sign = '-' || sign = '+') && !letters.isEmpty then
        let plain := letters.filter fun c => c ≠ 'c' && c ≠ 's' && c ≠ 'l' && c ≠ 'i'
        let named := 'o' ∈ plain
        let option : Bool × Bytes × Option Bytes :=
          (decide (sign = '-'), plain, if named then rest.head? else none)
        Invocation.read (asked || 'c' ∈ letters) (input || 's' ∈ letters) (options ++ [option]) fuel
          (if named then rest.drop 1 else rest)
      else .of asked input options (first :: rest)
    | [] => .of asked input options (first :: rest)

/-- The variables that a shell has from its start, apart from those that it is given. -/
def initialVariables (parent : Nat) (here : Bytes) (given : List (Bytes × Bytes)) :
    List (Bytes × Variable) :=
  let plain (name : String) (value : Bytes) : Bytes × Variable :=
    (name.toList, ⟨some value, false, false⟩)
  let defaults := [plain "IFS" " \t\n".toList, plain "OPTIND" ['1'],
    plain "PPID" (Number.text parent), plain "PS1" "# ".toList, plain "PS2" "> ".toList,
    plain "PS4" "+ ".toList,
    plain "PATH" "/usr/local/sbin:/usr/local/bin:/usr/sbin:/usr/bin:/sbin:/bin".toList]
  let imported := given.filter fun (name, _) =>
    isName name && !(["IFS".toList, "PPID".toList, "PWD".toList].contains name)
  let all := imported.map (fun (name, value) => (name, (⟨some value, true, false⟩ : Variable))) ++
    [("PWD".toList, ⟨some here, true, false⟩)]
  (defaults.filter fun (name, _) => (all.lookup name).isNone) ++ all.reverse

def State.newShell (s : State) : State :=
  { world := s.world
    bindings := initialVariables s.process s.here s.environment
    traps := s.traps.filter (·.2.isEmpty)
    descriptors := s.descriptors
    place := s.place
    here := s.here
    mask := s.mask
    root := s.process
    process := s.process
    parent := s.parent
    depth := 0 }

mutual

/-- The pieces of the parts of a word. Where the word is `full`, it will be split; what stands in it
plainly is split only if it is `loose`. -/
def expandParts : Nat → Bool → Bool → Word → Action (List Piece)
  | 0, _, _, _ => do exhausted; return []
  | _ + 1, _, _, [] => return []
  | fuel + 1, full, loose, part :: rest => do
    let first ← match part with
      | .char c quoted => pure [Piece.char c quoted (loose && !quoted)]
      | .mark => pure [Piece.mark]
      | .parameter name use quoted => expandParameter fuel full name use quoted
      | .arithmetic expression quoted => do
        let text := Piece.text (← expandParts fuel false false expression)
        if (← get).flow = .next then calculate quoted text else pure []
      | .substitution body quoted => do
        let text ← capture fuel body
        pure (Piece.ofValue quoted text)
    if (← get).flow ≠ .next then return []
    return first ++ (← expandParts fuel full loose rest)

def calculate (quoted : Bool) (text : Bytes) : Action (List Piece) := do
  let shown := String.ofList text
  match Arithmetic.evaluate (← get).value? text with
  | .ok (n, assigned) =>
    for (name, value) in assigned do whenNext (assign name (Number.text value))
    return Piece.ofValue quoted (Number.text n)
  | .error (.expecting what) =>
    fail s!"arithmetic expression: expecting {what}: \"{shown}\""
    return []
  | .error .divisionByZero =>
    fail s!"arithmetic expression: division by zero: \"{shown}\""
    return []
  | .error (.illegal value) =>
    fail s!"Illegal number: {String.ofList value}"
    return []
  | .error .trap =>
    modify fun s => { s with flow := .killed 8 }
    return []

def expandParameter : Nat → Bool → Bytes → Use → Bool → Action (List Piece)
  | 0, _, _, _, _ => do exhausted; return []
  | fuel + 1, full, name, use, quoted => do
    let s ← get
    let isList := name = ['@'] || name = ['*']
    let value? (s : State) : Option Bytes :=
      if isList then some (Piece.text (s.parameterPieces (name.head?.getD '@') true false))
      else s.parameter? name
    let pieces (s : State) : List Piece :=
      if isList then s.parameterPieces (name.head?.getD '@') quoted full
      else Piece.ofValue quoted ((value? s).getD [])
    let shown := String.ofList name
    let required (next : Action (List Piece)) : Action (List Piece) := do
      if (value? s).isNone && s.option 'u' then
        fail s!"{shown}: parameter not set"
        return []
      else next
    match use with
    | .senseless =>
      fail "Bad substitution"
      return []
    | .value => required (return pieces s)
    | .length => required (return Piece.ofValue quoted (Number.text ((value? s).getD []).length))
    | .trim atEnd longest pattern =>
      required do
        let pattern := Piece.pattern (← expandParts fuel false false pattern)
        let value := (value? s).getD []
        return Piece.ofValue quoted
          (if atEnd then pattern.trimEnd longest value else pattern.trimStart longest value)
    | .fallback rule orEmpty word =>
      let isSet := match value? s with
        | none => false
        | some value => !(orEmpty && value.isEmpty)
      let word := Word.atHome s false (word.length + 1) word
      let inPlace : Action (List Piece) := do
        let pieces ← expandParts fuel full (!quoted) word
        return if quoted then pieces else .edge false :: pieces
      match rule, isSet with
      | .useDefault, true | .assign, true | .complain, true => return pieces s
      | .useDefault, false | .alternative, true => inPlace
      | .alternative, false => return []
      | .assign, false =>
        let text := Piece.text (← expandParts fuel false false word)
        whenNext (if isName name then assign name text else Builtin.badName name)
        if (← get).flow = .next then return pieces (← get) else return []
      | .complain, false =>
        let text := Piece.text (← expandParts fuel false false word)
        whenNext do
          if word.isEmpty then
            fail (s!"{shown}: parameter not set" ++ if orEmpty then " or null" else "")
          else fail s!"{shown}: {String.ofList text}"
        return []

/-- The output of a command, without the line breaks at its end. -/
def capture : Nat → Command → Action Bytes
  | 0, _ => do exhausted; return []
  | fuel + 1, body => do
    let (into, out, s) := (← get).addChannel
    set s
    let status ← inChild fuel (·.connect 1 into) (execute fuel false body)
    Builtin.report status
    let s ← get
    set { s with status := Builtin.statusOf status, substituted := Builtin.statusOf status }
    let text := (s.streamContents out).filter (· ≠ '\x00')
    return (text.reverse.dropWhile (· = '\n')).reverse

def expandText : Nat → Bool → Word → Action Bytes
  | 0, _, _ => do exhausted; return []
  | fuel + 1, assigned, word => do
    let s ← get
    let word := Word.atHome s assigned (word.length + 1) word
    return Piece.text (← expandParts fuel false false word)

def expandFields : Nat → Word → Action (List Bytes)
  | 0, _ => do exhausted; return []
  | fuel + 1, word => do
    let s ← get
    let word := Word.atHome s false (word.length + 1) word
    let pieces ← expandParts fuel true false word
    let s ← get
    if s.flow ≠ .next then return []
    return (fields s.separators pieces).flatMap (Glob.expand s)

/-- The fields of words, the first of which name a command. Assignments among the arguments of
commands that make them are not split. -/
def expandWords : Nat → List Bytes → List Word → Action (List Bytes)
  | 0, _, _ => do exhausted; return []
  | _ + 1, before, [] => return before
  | fuel + 1, before, word :: words => do
    let name := (before.dropWhile (· = "command".toList)).head?.map String.ofList
    let assigns := name = some "export" || name = some "readonly" || name = some "local"
    let found ← match assigns, word.assignment? with
      | true, some (name, value) => do
        let text ← expandText fuel true value
        pure [name ++ '=' :: text]
      | _, _ => expandFields fuel word
    if (← get).flow ≠ .next then return []
    expandWords fuel (before ++ found) words

/-- Connects descriptors. Tells whether all redirections were possible. -/
def redirect : Nat → List Redirect → Action Bool
  | 0, _ => do exhausted; return false
  | _ + 1, [] => return true
  | fuel + 1, first :: rest => do
    let refuse (text : String) : Action Bool := do
      complain text
      finish 2
      return false
    match first with
    | .file descriptor access path =>
      let path ← expandText fuel false path
      if (← get).flow ≠ .next then return false
      match ← openFile access path with
      | .ok stream =>
        modify (·.connect descriptor stream)
        redirect fuel rest
      | .error trouble =>
        let isMissing := trouble = .absent || trouble = .notDirectory
        let shown := String.ofList path
        if access = .read then
          refuse (s!"cannot open {shown}: " ++ if isMissing then "No such file" else trouble.text)
        else
          refuse (s!"cannot create {shown}: " ++
            if isMissing then "Directory nonexistent" else trouble.text)
    | .duplicate descriptor source =>
      let text ← expandText fuel false source
      if (← get).flow ≠ .next then return false
      match text with
      | ['-'] =>
        modify (·.close descriptor)
        redirect fuel rest
      | [c] =>
        if !c.isDigit then
          fail "Syntax error: Bad fd number"
          return false
        match (← get).descriptors.lookup (c.toNat - '0'.toNat) with
        | some stream =>
          modify (·.connect descriptor stream)
          redirect fuel rest
        | none => refuse s!"{String.ofList [c]}: Bad file descriptor"
      | _ =>
        fail "Syntax error: Bad fd number"
        return false
    | .document descriptor number =>
      let body := ((← get).documents.lookup number).getD []
      let text := Piece.text (← expandParts fuel false false body)
      let (_, out, s) := (← get).addChannel
      let file := ((s.world.streams[out]?).map Stream.file).getD 0
      let s := s.setFiles (s.world.files.write file none text)
      set (s.connect descriptor out)
      if s.flow ≠ .next then
        modify fun s => { s with flow := .next }
        return false
      redirect fuel rest

/-- Runs an action as a process of its own, and tells how that ends. -/
def inChild : Nat → (State → State) → Action Unit → Action ExitStatus
  | 0, _, _ => return .exited 1
  | fuel + 1, prepare, action => do
    let s ← get
    let process := s.world.nextProcess
    let child := prepare
      { s with
        world := { s.world with nextProcess := process + 1 }
        process
        parent := s.process
        background := []
        traps := s.traps.filter (·.2.isEmpty)
        before := none }
    let ((), child) := (do action; depart fuel : Action Unit).run child
    set { s with world := child.world }
    if s.world.clock < child.world.clock then Builtin.settle (some child.world.clock)
    return child.ending

/-- Brings a shell to its end: what is to be done then is done, and the commands in the background
go to theirs. -/
def depart : Nat → Action Unit
  | 0 => pure ()
  | fuel + 1 => do
    let s ← get
    match s.flow, s.traps.lookup 0 with
    | .killed _, _ => pure ()
    | _, none | _, some [] => pure ()
    | _, some action =>
      set { s with flow := .next, traps := s.traps.filter (·.1 ≠ 0), before := some s.status }
      runScript fuel false action
      let after ← get
      match after.flow with
      | .killed _ | .exited => pure ()
      | _ => set { after with status := s.status, flow := .exited }
    Builtin.settle none

def attend : Nat → Action Unit
  | 0 => pure ()
  | fuel + 1 => do
    let s ← get
    match s.world.signals.find? (·.1 = s.process) with
    | none => pure ()
    | some (process, signal) =>
      let signals := s.world.signals.erase (process, signal)
      set { s with world := { s.world with signals } }
      match if signal = 9 || signal = 19 then none else s.traps.lookup signal with
      | some [] => attend fuel
      | some action =>
        modify fun s => { s with before := some s.status }
        runScript fuel false action
        let after ← get
        if after.flow = .next then
          set { after with status := s.status, before := s.before }
          attend fuel
      | none =>
        if signal ∈ Builtin.harmless then attend fuel
        else modify fun s => { s with status := 128 + signal, flow := .killed signal }

/-- Starts the program in a file, with its name and its arguments, in a process of its own. -/
def start : Nat → Tool.Start
  | 0, _, _ => return .exited 1
  | fuel + 1, n, words => do
    let file := (← get).world.files.get n
    inChild fuel id do
      match file.node with
      | .program tool => runTool fuel tool words
      | _ =>
        let text := file.contents.toList
        match Tool.interpreter? text with
        | some front =>
          let s ← get
          match s.world.files.find s.place (front.head?.getD []) with
          | .ok n => Tool.endAs (← start fuel n (front ++ words))
          | .error _ => finish 127
        | none =>
          modify fun s =>
            { s.newShell with name := words.head?.getD [], parameters := words.drop 1 }
          runScript fuel false text
          depart fuel

/-- Runs a program by its name, or complains that there is none. -/
def runProgram : Nat → List Bytes → Action Unit
  | 0, _ => exhausted
  | _ + 1, [] => pure ()
  | fuel + 1, name :: arguments => do
    let s ← get
    let files := s.world.files
    let refuse (text : String) (status : Nat) : Action Unit := do
      complain s!"{String.ofList name}: {text}"
      finish status
    let run (n : Nat) : Action Unit := do
      let status ← start fuel n (name :: arguments)
      let fatal := (← get).world.signals.any fun (process, signal) =>
        process = s.process && (s.traps.lookup signal).isNone
      if !fatal then Builtin.report status
      finish (Builtin.statusOf status)
    if '/' ∈ name then
      match files.find s.place name with
      | .ok n =>
        let file := files.get n
        let missing := match Tool.interpreter? (file.contents.toList.take 256) with
          | some front => (files.find s.place (front.head?.getD [])).toOption.isNone
          | none => false
        if file.isDirectory || file.mode &&& 0o111 = 0 then refuse "Permission denied" 126
        else if missing then refuse "not found" 127
        else run n
      | .error .denied => refuse "Permission denied" 126
      | .error _ => refuse "not found" 127
    else if name.isEmpty then refuse "Permission denied" 127
    else
      match s.program? name with
      | some (path, n) =>
        modify fun s => s.track path
        run n
      | none => refuse "not found" 127

def runTool : Nat → String → List Bytes → Action Unit
  | 0, _, _ => exhausted
  | fuel + 1, tool, words => do
    modify fun s => { s with status := 0, command := none }
    match Tool.ofName? tool with
    | some (.plain run) => run (words.drop 1)
    | some (.launcher run) => run (start fuel) (words.drop 1)
    | some .shell => runShell fuel (words.head?.getD []) (words.drop 1)
    | none => pure ()

def runShell : Nat → Bytes → List Bytes → Action Unit
  | 0, _, _ => exhausted
  | fuel + 1, name, arguments => do
    let invocation := Invocation.read false false [] arguments.length arguments
    modify fun s => { s.newShell with name, line := 0 }
    match invocation.mistake with
    | some text => fail text
    | none => pure ()
    for (on, letters, word) in invocation.options do
      whenNext do
        match ← Builtin.applyOptions on letters word with
        | .ok _ => pure ()
        | .error text => fail text
    let script ← match invocation.script, invocation.name with
      | some script, _ => pure script
      | none, some path => do
        let s ← get
        match s.world.files.find s.place path with
        | .ok n => pure (s.world.files.get n).contents.toList
        | .error _ => do
          whenNext (fail s!"cannot open {String.ofList path}: No such file")
          pure []
      | none, none => do
        match (← get).read 0 none with
        | (.ok text, s) => do set s; pure text
        | (.error _, s) => do set s; pure []
    modify fun s => { s with
      name := invocation.name.getD name
      parameters := invocation.parameters
      line := 1 }
    whenNext (runScript fuel false script)
    depart fuel

def callFunction : Nat → Bool → Command → List Bytes → Action Unit
  | 0, _, _, _ => exhausted
  | fuel + 1, tested, body, arguments => do
    let s ← get
    if 1000 ≤ s.depth then fail "Maximum function recursion depth (1000) reached"
    else
      set { s with
        parameters := arguments
        depth := s.depth + 1
        loops := 0
        locals := [] :: s.locals
        letters := none }
      execute fuel tested body
      modify fun after =>
        let frame := after.locals.head?.getD []
        let after := frame.foldl (fun after (name, entry) =>
          if name = ['-'] then { after with options := (entry.bind Variable.value).getD [] }
          else after.putVariable name entry) after
        { after with
          parameters := s.parameters
          depth := s.depth
          loops := s.loops
          locals := s.locals
          letters := s.letters
          flow := if after.flow = .returned then .next else after.flow }

def invoke : Nat → Bool → Bool → List Bytes → Action Unit
  | 0, _, _, _ => exhausted
  | _ + 1, _, _, [] => pure ()
  | fuel + 1, tested, functions, name :: arguments => do
    let s ← get
    match if functions then s.functions.lookup name else none with
    | some body => callFunction fuel tested body arguments
    | none =>
      match String.ofList name with
      | "command" =>
        underName name <| Builtin.withOptions "pvV" arguments fun found rest => do
          if found.any (·.1 = 'V') then describeAll true (rest.take 1)
          else if found.any (·.1 = 'v') then describeAll false (rest.take 1)
          else
            finish 0
            modify fun after => { after with command := s.command }
            invoke fuel tested false rest
      | "type" => underName name (describeAll true arguments)
      | "eval" =>
        underName name do
          runScript fuel tested ([' '].intercalate arguments)
      | "." => underName name (source fuel arguments)
      | "exec" =>
        match arguments with
        | [] => finish 0
        | program =>
          modify fun s => { s with command := some name, traps := [] }
          runProgram fuel program
          modify fun s => { s with flow := .exited }
      | _ =>
        match Builtin.ofName? name with
        | some builtin => underName name (builtin arguments)
        | none => runProgram fuel (name :: arguments)

def source : Nat → Builtin
  | 0, _ => exhausted
  | _ + 1, [] => finish 0
  | fuel + 1, path :: _ => do
    let s ← get
    let files := s.world.files
    let shown := String.ofList path
    let found : Except String (Bytes × Nat) :=
      if '/' ∈ path then
        match files.find s.place path with
        | .ok n => .ok (path, n)
        | .error _ => .error s!"cannot open {shown}: No such file"
      else
        let paths := ((s.value "PATH").splitOn ':').map fun directory =>
          if directory.isEmpty then path else directory ++ '/' :: path
        match paths.findSome? fun path =>
          let found := (files.find s.place path).toOption.filter fun n => (files.get n).isRegular
          found.map (path, ·) with
        | some found => .ok found
        | none => .error s!"{shown}: not found"
    match found with
    | .error text => fail text
    | .ok (path, n) =>
      modify fun s => { s with command := some path }
      runScript fuel false (files.get n).contents.toList
      modify fun s => { s with flow := if s.flow = .returned then .next else s.flow }

/-- Gives values to variables in front of a command, and tells their names with what they were. -/
def assignAll : Nat → Bool → List Word → Action (List (Bytes × Option Variable) × List Bytes)
  | 0, _, _ => do exhausted; return ([], [])
  | _ + 1, _, [] => return ([], [])
  | fuel + 1, exported, word :: words => do
    match word.assignment? with
    | none => assignAll fuel exported words
    | some (name, value) =>
      let text ← expandText fuel true value
      let old := (← get).lookup? name
      whenNext (assign name text)
      if (← get).flow ≠ .next then return ([], [])
      if exported then
        modify fun s =>
          s.putVariable name ((s.lookup? name).map fun entry => { entry with exported := true })
      let (others, texts) ← assignAll fuel exported words
      return ((name, old) :: others, (name ++ '=' :: text) :: texts)

def trace : Nat → List (Nat × Nat) → List Bytes → Action Unit
  | 0, _, _ => pure ()
  | fuel + 1, descriptors, texts => do
    if (← get).option 'x' then
      let s ← get
      let front :=
        match Reader.within (s.value "PS4") 1 (Reader.stretch 1000 ⟨.finish, true, true, false⟩)
          |>.run { rest := [], next := s.nextDocument } with
        | .ok (word, _) => word
        | .error _ => []
      Builtin.setOption 'x' false
      let front := Piece.text (← expandParts fuel false false front)
      Builtin.setOption 'x' true
      let now ← get
      let line := front ++ [' '].intercalate texts ++ ['\n']
      let after := ({ now with descriptors }.write 2 line).2
      set { after with descriptors := now.descriptors }

def simple : Nat → Bool → Nat → List Word → List Word → List Redirect → Action Unit
  | 0, _, _, _, _, _ => exhausted
  | fuel + 1, tested, line, assignments, words, redirects => do
    modify fun s => { s with line, substituted := 0 }
    let words ← expandWords fuel [] words
    whenNext do
      let s ← get
      let before := s.descriptors
      let restore : Action Unit := modify fun s => { s with descriptors := before }
      let name := words.head?.getD []
      let isFunction := (s.functions.lookup name).isSome
      let special := !words.isEmpty && State.isSpecial name
      let connected ← redirect fuel redirects
      if !connected then
        restore
        if special then modify fun s => { s with flow := .failed }
      else
        whenNext do
          let persists := words.isEmpty || special
          let (old, texts) ← assignAll fuel (!persists) assignments
          whenNext do
            trace fuel before (texts ++ words)
            if words.isEmpty then
              modify fun s => { s with status := s.substituted }
              restore
            else
              invoke fuel tested true words
              let survives := !special && !isFunction
              modify fun s =>
                if s.flow = .failed && survives then { s with flow := .next } else s
              let isExec := (words.dropWhile (· = "command".toList)).head? = some "exec".toList
              if !isExec || (← get).flow ≠ .next then restore
              if !persists then
                modify fun s =>
                  old.reverse.foldl (fun s (name, entry) => s.putVariable name entry) s

/-- Runs a command. Where it is `tested`, its failure is expected and does not end a strict
shell. -/
def execute : Nat → Bool → Command → Action Unit
  | 0, _, _ => exhausted
  | fuel + 1, tested, command => do
    let enforce : Action Unit := whenNext do
      let s ← get
      if s.option 'e' && !tested && s.status ≠ 0 then set { s with flow := .exited }
    if (← get).option 'n' then return
    whenNext do
      match command with
      | .nothing => pure ()
      | .simple line assignments words redirects =>
        simple fuel tested line assignments words redirects
        if !(← get).world.signals.isEmpty then whenNext (attend fuel)
        enforce
      | .sequence first second =>
        execute fuel tested first
        execute fuel tested second
      | .andThen first second =>
        execute fuel true first
        if (← get).status = 0 then execute fuel tested second
      | .orElse first second =>
        execute fuel true first
        if (← get).status ≠ 0 then execute fuel tested second
      | .invert command =>
        execute fuel true command
        whenNext do finish (if (← get).status = 0 then 1 else 0)
      | .pipeline commands =>
        pipe fuel tested none commands
        whenNext (attend fuel)
        enforce
      | .background command =>
        let s ← get
        let process := s.world.nextProcess
        let world := { s.world with nextProcess := process + 1 }
        let null := (s.world.files.find 0 "/dev/null".toList).toOption.getD 0
        let run (world : World) : World × ExitStatus :=
          let (n, child) := { s with
            world
            process
            parent := s.process
            background := []
            traps := s.traps.filter (·.2.isEmpty)
            before := none }.addStream { file := null }
          let ((), child) := (do execute fuel false command; depart fuel : Action Unit).run
            (child.connect 0 n)
          (child.world, child.ending)
        set { s with
          world
          background := ⟨process, s.world.clock, .waiting run⟩ :: s.background
          latest := some process
          status := 0 }
      | .subshell line body redirects =>
        modify fun s => { s with line }
        let status ← inChild fuel id do
          if ← redirect fuel redirects then execute fuel tested body
        Builtin.report status
        finish (Builtin.statusOf status)
        whenNext (attend fuel)
        enforce
      | .redirected line body redirects =>
        modify fun s => { s with line }
        let before := (← get).descriptors
        if ← redirect fuel redirects then execute fuel tested body
        modify fun s => { s with descriptors := before }
      | .conditional condition yes no =>
        execute fuel true condition
        whenNext do
          if (← get).status = 0 then execute fuel tested yes
          else
            finish 0
            execute fuel tested no
      | .loop whileFailing condition body =>
        let loops := (← get).loops
        modify fun s => { s with loops := loops + 1 }
        turns fuel tested whileFailing condition body 0
        modify fun s => { s with loops }
      | .each line name words body =>
        modify fun s => { s with line }
        let values ← expandWords fuel ["for".toList] words
        whenNext do
          finish 0
          let loops := (← get).loops
          modify fun s => { s with loops := loops + 1 }
          forValues fuel tested name body (values.drop 1)
          modify fun s => { s with loops }
      | .choose line word branches =>
        modify fun s => { s with line }
        let text ← expandText fuel false word
        whenNext (choose fuel tested text branches)
      | .define name body =>
        modify fun s => { s with
          functions := (name, body) :: s.functions.filter (·.1 ≠ name)
          status := 0 }

/-- Runs the commands of a pipeline, the first of which reads from a stream. -/
def pipe : Nat → Bool → Option Nat → List Command → Action Unit
  | 0, _, _, _ => exhausted
  | _ + 1, _, _, [] => pure ()
  | fuel + 1, tested, input, command :: rest => do
    let connect (s : State) : State := (input.map fun n => s.connect 0 n).getD s
    if rest.isEmpty then
      let status ← inChild fuel connect (execute fuel tested command)
      Builtin.report status
      finish (Builtin.statusOf status)
    else
      let (into, out, s) := (← get).addChannel
      set s
      let status ← inChild fuel (fun s => (connect s).connect 1 into) (execute fuel tested command)
      Builtin.report status
      pipe fuel tested (some out) rest

/-- Runs a loop from its condition on. Its status is that of the last turn of its body. -/
def turns : Nat → Bool → Bool → Command → Command → Nat → Action Unit
  | 0, _, _, _, _, _ => exhausted
  | fuel + 1, tested, whileFailing, condition, body, status => do
    execute fuel true condition
    let s ← get
    if s.flow ≠ .next then
      let (again, s) := s.turned
      set s
      if again then turns fuel tested whileFailing condition body status
    else if (s.status = 0) = whileFailing then finish status
    else
      execute fuel tested body
      let (again, s) := (← get).turned
      set s
      if again then turns fuel tested whileFailing condition body s.status

def forValues : Nat → Bool → Bytes → Command → List Bytes → Action Unit
  | 0, _, _, _, _ => exhausted
  | _ + 1, _, _, _, [] => pure ()
  | fuel + 1, tested, name, body, value :: rest => do
    assign name value
    execute fuel tested body
    let (again, s) := (← get).turned
    set s
    if again then forValues fuel tested name body rest

/-- Runs the first branch that has a pattern for the subject. -/
def choose : Nat → Bool → Bytes → List (List Word × Command) → Action Unit
  | 0, _, _, _ => exhausted
  | _ + 1, _, _, [] => finish 0
  | fuel + 1, tested, subject, (patterns, body) :: rest => do
    match ← matching fuel subject patterns with
    | true =>
      whenNext do
        match body with
        | .nothing => finish 0
        | body => execute fuel tested body
    | false => whenNext (choose fuel tested subject rest)

/-- Whether one of the patterns has the form of the subject. -/
def matching : Nat → Bytes → List Word → Action Bool
  | 0, _, _ => do exhausted; return true
  | _ + 1, _, [] => return false
  | fuel + 1, subject, word :: words => do
    let s ← get
    let pieces ← expandParts fuel false false (Word.atHome s false (word.length + 1) word)
    if (← get).flow ≠ .next then return true
    if (Piece.pattern pieces).accepts subject then return true
    matching fuel subject words

def runScript : Nat → Bool → Bytes → Action Unit
  | 0, _, _ => exhausted
  | fuel + 1, tested, script => runLines fuel tested script 1 false

/-- Runs the lines that are left of a script; `ran` tells whether a command has run before. -/
def runLines : Nat → Bool → Bytes → Nat → Bool → Action Unit
  | 0, _, _, _, _ => exhausted
  | fuel + 1, tested, script, line, ran => do
    let s ← get
    match Reader.line? s.aliases script line s.nextDocument with
    | .error mistake =>
      modify fun s => { s with line := mistake.line }
      fail ("Syntax error: " ++ mistake.reason)
    | .ok (found, documents, nextDocument) =>
      modify fun s => { s with documents := documents ++ s.documents, nextDocument }
      match found with
      | none => if !ran then finish 0
      | some found =>
        let isNothing := match found.command with
          | .nothing => true
          | _ => false
        execute fuel tested found.command
        whenNext (runLines fuel tested found.rest found.next (ran || !isNothing))

end

end Precedence.Shell

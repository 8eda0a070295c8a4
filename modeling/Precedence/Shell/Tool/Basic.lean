import Precedence.Shell.Builtin

namespace Precedence.Shell

abbrev Tool := List Bytes → Action Unit

namespace Tool

def refuse (tool text : String) (status : Nat := 1) : Action Unit := do
  warn s!"{tool}: {text}\n"
  finish status

def misuse (tool text : String) (status : Nat := 1) : Action Unit := do
  warn s!"{tool}: {text}\nTry '{tool} --help' for more information.\n"
  finish status

def put (tool : String) (text : Bytes) : Action Unit := do
  match (← get).write 1 text with
  | (none, s) => set s
  | (some trouble, s) =>
    set s
    if !text.isEmpty then
      let isClosed := tool = "cat" && trouble = .badDescriptor
      let what := if isClosed then "standard output" else "write error"
      refuse tool s!"{what}: {trouble.text}"

def writeTo (stream : Nat) (text : Bytes) : Action Unit := do
  let s ← get
  let (_, after) := (s.connect 9 stream).write 9 text
  set { after with descriptors := s.descriptors }

structure Allowed where
  letter : Char
  long : String := ""
  takesText : Bool := false
  /-- A text may stand behind the option in the same argument. -/
  attached : Bool := false

abbrev Chosen := Char × Bytes

/-- Options without a text, by their letters and their long names. -/
def flags (names : List (Char × String)) : List Allowed :=
  names.map fun (letter, long) => { letter, long }

def settings (names : List (Char × String)) : List Allowed :=
  names.map fun (letter, long) => { letter, long, takesText := true }

def markers (names : List (Char × String)) : List Allowed :=
  names.map fun (letter, long) => { letter, long, attached := true }

/-- Options without long names, by their letters: those without a text, and those with one. -/
def letters (plain withText : String) : List Allowed :=
  flags (plain.toList.map fun letter => (letter, "")) ++
    settings (withText.toList.map fun letter => (letter, ""))

/-- The options among arguments and the other arguments, or what is wrong with them. Numbers behind
a dash alone are options if `numbers` is set, and nothing behind an argument that is no option is
one if `inOrder` is set. -/
def choose (allowed : List Allowed) (numbers inOrder : Bool) :
    Nat → List Bytes → Except String (List Chosen × List Bytes)
  | 0, arguments => .ok ([], arguments)
  | _, [] => .ok ([], [])
  | fuel + 1, first :: rest => do
    let shown := String.ofList first
    match first with
    | ['-', '-'] => return ([], rest)
    | '-' :: '-' :: name =>
      let (name, text) := Builtin.binding name
      let name := String.ofList name
      let exact := allowed.filter (·.long = name)
      let found := if exact.isEmpty then
          allowed.filter fun option => name.toList.isPrefixOf option.long.toList else exact
      match found with
      | [option] =>
        if option.attached then
          let (others, operands) ← choose allowed numbers inOrder fuel rest
          return ((option.letter, text.getD []) :: others, operands)
        match option.takesText, text, rest with
        | false, some _, _ => .error s!"option '--{option.long}' doesn't allow an argument"
        | false, none, _ =>
          let (others, operands) ← choose allowed numbers inOrder fuel rest
          return ((option.letter, []) :: others, operands)
        | true, some text, _ =>
          let (others, operands) ← choose allowed numbers inOrder fuel rest
          return ((option.letter, text) :: others, operands)
        | true, none, text :: rest =>
          let (others, operands) ← choose allowed numbers inOrder fuel rest
          return ((option.letter, text) :: others, operands)
        | true, none, [] => .error s!"option '--{option.long}' requires an argument"
      | _ => .error s!"unrecognized option '{shown}'"
    | '-' :: letter :: more =>
      if numbers && letter.isDigit then
        let (digits, more) := (letter :: more).span Char.isDigit
        let rest := if more.isEmpty then rest else ('-' :: more) :: rest
        let (others, operands) ← choose allowed numbers inOrder fuel rest
        return (('#', digits) :: others, operands)
      match allowed.find? (·.letter = letter) with
      | none => .error s!"invalid option -- '{String.ofList [letter]}'"
      | some option =>
        if option.attached then
          let (others, operands) ← choose allowed numbers inOrder fuel rest
          return ((letter, more) :: others, operands)
        else if option.takesText then
          match more, rest with
          | [], text :: rest =>
            let (others, operands) ← choose allowed numbers inOrder fuel rest
            return ((letter, text) :: others, operands)
          | [], [] => .error s!"option requires an argument -- '{String.ofList [letter]}'"
          | more, _ =>
            let (others, operands) ← choose allowed numbers inOrder fuel rest
            return ((letter, more) :: others, operands)
        else
          let rest := if more.isEmpty then rest else ('-' :: more) :: rest
          let (others, operands) ← choose allowed numbers inOrder fuel rest
          return ((letter, []) :: others, operands)
    | _ =>
      if inOrder then return ([], first :: rest)
      let (others, operands) ← choose allowed numbers inOrder fuel rest
      return (others, first :: operands)

/-- Goes on with the options and the other arguments of a program. -/
def withChoice (tool : String) (allowed : List Allowed) (numbers : Bool) (status : Nat)
    (arguments : List Bytes) (next : List Chosen → List Bytes → Action Unit) : Action Unit :=
  let size := arguments.flatten.length + arguments.length
  match choose allowed numbers false (size + 1) arguments with
  | .ok (options, operands) => next options operands
  | .error text => misuse tool text status

/-- Goes on with the options of a program in front of its first other argument. -/
def withLeading (tool : String) (allowed : List Allowed) (status : Nat) (arguments : List Bytes)
    (next : List Chosen → List Bytes → Action Unit) : Action Unit :=
  match choose allowed false true (arguments.flatten.length + arguments.length + 1) arguments with
  | .ok (options, operands) => next options operands
  | .error text => misuse tool text status

def last? (letter : Char) (options : List Chosen) : Option Bytes :=
  (options.reverse.find? (·.1 = letter)).map Prod.snd

def has (letter : Char) (options : List Chosen) : Bool := options.any (·.1 = letter)

def pathBelow (path name : Bytes) : Bytes :=
  (if path.getLast? = some '/' then path else path ++ ['/']) ++ name

/-- The contents of a file, or of the standard input for a dash. -/
def contents (path : Bytes) : Action (Except Trouble Bytes) := do
  if path = ['-'] then
    let (text, s) := (← get).read 0 none
    set s
    return text
  else
    match ← openFile .read path with
    | .error trouble => return .error trouble
    | .ok stream =>
      let s ← get
      let (text, after) := (s.connect 0 stream).read 0 none
      set { after with descriptors := s.descriptors }
      return text

def lines (text : Bytes) : List Bytes :=
  match text.splitOn '\n' with
  | [] => []
  | parts => if parts.getLast? = some [] then parts.dropLast else parts

/-- The lines of a text with their ends; the last one may have none. -/
def fullLines (text : Bytes) : List Bytes :=
  let rec go : Bytes → Bytes → List Bytes
    | [], [] => []
    | line, [] => [line.reverse]
    | line, c :: rest => if c = '\n' then (c :: line).reverse :: go [] rest else go (c :: line) rest
  go [] text

def unlines (parts : List Bytes) : Bytes := parts.flatMap (· ++ ['\n'])

/-- Goes through files, or the standard input when there are none, and complains about those that
cannot be read. -/
def forFiles (tool : String) (paths : List Bytes) (run : Bytes → Bytes → Action Unit)
    (complaint : String → Trouble → String := fun path trouble => s!"{path}: {trouble.text}")
    (status : Nat := 1) : Action Unit := do
  for path in if paths.isEmpty then [['-']] else paths do
    match ← contents path with
    | .ok text => run path text
    | .error trouble => refuse tool (complaint (.ofList path) trouble) status

def gather (tool : String) (paths : List Bytes)
    (complaint : String → Trouble → String := fun path trouble => s!"{path}: {trouble.text}")
    (status : Nat := 1) : Action (List Bytes) := do
  let mut found : Array Bytes := #[]
  for path in if paths.isEmpty then [['-']] else paths do
    match ← contents path with
    | .ok text => found := found.push text
    | .error trouble => refuse tool (complaint (.ofList path) trouble) status
  return found.toList

/-- A number with a letter for a power of 1024 or 1000 behind it. -/
def scaled? (cs : Bytes) : Option Nat :=
  let (digits, unit) := cs.span Char.isDigit
  let factor : Option Nat := match String.ofList unit with
    | "" => some 1
    | "b" => some 512
    | "K" | "k" | "KiB" => some 1024
    | "kB" | "KB" => some 1000
    | "M" | "MiB" => some (Nat.pow 1024 2)
    | "MB" => some (Nat.pow 1000 2)
    | "G" | "GiB" => some (Nat.pow 1024 3)
    | "GB" => some (Nat.pow 1000 3)
    | _ => none
  do return (← Number.decimal? digits) * (← factor)

end Tool

end Precedence.Shell

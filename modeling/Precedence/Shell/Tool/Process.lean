import Precedence.Shell.Tool.Basic

namespace Precedence.Shell.Tool

def ofStatus (status : Nat) : Tool := fun _ => finish status

def ofText (tool text : String) : Tool := fun _ => put tool (text ++ "\n").toList

/-- A text in which bytes are escaped in octal digits that were escaped in hexadecimal ones. -/
def octalEscapes : Bytes → Bytes
  | '\\' :: 'x' :: rest =>
    match rest with
    | [] => "\\x".toList
    | a :: rest =>
      match Number.digitIn? 16 a, rest with
      | none, rest => "\\x".toList ++ octalEscapes (a :: rest)
      | some high, [] => octal high
      | some high, b :: rest =>
        match Number.digitIn? 16 b with
        | some low => octal (high * 16 + low) ++ octalEscapes rest
        | none => octal high ++ octalEscapes (b :: rest)
  | '\\' :: c :: rest => '\\' :: c :: octalEscapes rest
  | c :: rest => c :: octalEscapes rest
  | [] => []
where
  octal (n : Nat) : Bytes := '\\' :: pad false '0' 3 (Nat.toDigits 8 n)

/-- Prints its arguments. Escapes stand for characters only behind the option `-e`. -/
def echo : Tool := fun arguments => do
  let isOption (cs : Bytes) : Bool :=
    match cs with
    | '-' :: letters => !letters.isEmpty && letters.all fun c => c = 'n' || c = 'e' || c = 'E'
    | _ => false
  let (options, words) := arguments.span isOption
  let letters := options.flatten
  let escaped := (letters.reverse.find? fun c => c = 'e' || c = 'E') = some 'e'
  let text := [' '].intercalate words
  let (text, ended) :=
    if escaped then unescape (4 * text.length + 1) (octalEscapes text) else (text, false)
  put "echo" (if 'n' ∈ letters || ended then text else text ++ ['\n'])

def printf : Tool := fun arguments =>
  let words := if arguments.head? = some ['-', '-'] then arguments.drop 1 else arguments
  match words with
  | [] => misuse "printf" "missing operand"
  | format :: rest => do
    let printed := formatted (octalEscapes format) rest
    put "printf" printed.text
    for text in printed.complaints.reverse do
      let (argument, reason) := text.toList.span (· ≠ ':')
      let reason := match String.ofList reason with
        | ": expected numeric value" => ": expected a numeric value"
        | ": not completely converted" => ": value not completely converted"
        | other => other
      if !argument.isEmpty then refuse "printf" ("'" ++ String.ofList argument ++ "'" ++ reason)
    match printed.mistake, printed.left with
    | some text, _ =>
      refuse "printf" (String.ofList (text.toList.takeWhile (· ≠ ':')) ++
        ": invalid conversion specification")
    | none, first :: _ =>
      warn s!"printf: warning: ignoring excess arguments, starting with '{String.ofList first}'\n"
    | none, [] => pure ()

def test (name : String) : Tool := fun arguments => do
  let ask (words : List Bytes) : Action Unit := do
    let words := match words with
      | [a, ['=', '='], b] => [a, ['='], b]
      | words => words
    match Question.answer (← get) words with
    | .ok answer => finish (if answer then 0 else 1)
    | .error text => refuse name (reworded text words) 2
  if name = "[" then
    if arguments.getLast? = some [']'] then ask arguments.dropLast else refuse "[" "missing ']'" 2
  else ask arguments
where
  /-- The wording of what is wrong with a question. -/
  reworded (text : String) (words : List Bytes) : String :=
    let number := "Illegal number: ".toList
    let last := String.ofList ((words.getLast?).getD [])
    let second := String.ofList ((words[1]?).getD [])
    if number.isPrefixOf text.toList then
      s!"invalid integer '{String.ofList (text.toList.drop number.length)}'"
    else if words.length = 2 || "argument expected".toList.isSuffixOf text.toList then
      s!"missing argument after '{last}'"
    else s!"extra argument '{second}'"

def pwd : Tool := fun _ => do
  let s ← get
  put "pwd" (s.world.files.truePath s.place ++ ['\n'])

def printenv : Tool := fun arguments =>
  withChoice "printenv" (flags [('0', "null")]) false 2 arguments fun options names => do
    let stop := if has '0' options then '\x00' else '\n'
    let environment := (← get).environment
    if names.isEmpty then
      put "printenv" (environment.flatMap fun (name, value) => name ++ '=' :: value ++ [stop])
    for name in names do
      match environment.lookup name with
      | some value => put "printenv" (value ++ [stop])
      | none => finish 1

def interval? (cs : Bytes) : Option Nat :=
  match decimalNumber? cs with
  | some (.infinite false, rest) => if rest.isEmpty then some (Nat.pow 10 15) else none
  | some (.finite negative digits power, rest) =>
    let factor : Option Nat := match rest with
      | [] | ['s'] => some 1
      | ['m'] => some 60
      | ['h'] => some 3600
      | ['d'] => some 86400
      | _ => none
    if negative && digits ≠ 0 then none
    else
      factor.map fun factor =>
        if power < -400 then 0
        else if power < 0 then digits * factor * Nat.pow 10 6 / Nat.pow 10 power.natAbs
        else digits * factor * Nat.pow 10 (6 + min power.natAbs 400)
  | _ => none

/-- Takes its time: processes in the background go on meanwhile. -/
def sleep : Tool := fun arguments =>
  withChoice "sleep" [] false 1 arguments fun _ times => do
    if times.isEmpty then misuse "sleep" "missing operand"
    else
      let wrong := times.filter fun cs => (interval? cs).isNone
      for cs in wrong do warn s!"sleep: invalid time interval '{String.ofList cs}'\n"
      if !wrong.isEmpty then
        warn "Try 'sleep --help' for more information.\n"
        finish 1
      else
        let s ← get
        let stop := s.world.clock + (times.filterMap interval?).foldl (· + ·) 0
        match s.world.deadline with
        | some (time, _) =>
          if time < stop then set s.expire
          else set { s with world := { s.world with clock := stop } }
        | none => set { s with world := { s.world with clock := stop } }

/-- Prints a line again and again, until there is plenty. -/
def yes : Tool := fun arguments => do
  let line := (if arguments.isEmpty then ['y'] else [' '].intercalate arguments) ++ ['\n']
  put "yes" (List.replicate (State.plenty / line.length + 1) line).flatten

def identity : Tool := fun arguments =>
  withChoice "id" (letters "ugGnr" "") false 1 arguments fun options _ =>
    let chosen := options.any fun (letter, _) => letter ≠ 'n' && letter ≠ 'r'
    put "id" (if !chosen then "uid=0(root) gid=0(root) groups=0(root)\n".toList
      else if has 'n' options then "root\n".toList else "0\n".toList)

def uname : Tool := fun arguments =>
  withChoice "uname" (letters "smorpi" "") false 1 arguments fun options _ =>
    put "uname" (if has 'm' options then "x86_64\n".toList
      else if has 'o' options then "GNU/Linux\n".toList else "Linux\n".toList)

def logname : Tool := fun _ => refuse "logname" "no login name"

def tty : Tool := fun _ => do
  put "tty" "not a tty\n".toList
  finish 1

def which : Tool := fun arguments =>
  withChoice "which" (letters "a" "") false 1 arguments fun _ names => do
    let s ← get
    if names.isEmpty then finish 1
    for name in names do
      let found := if '/' ∈ name then
          ((s.world.files.find s.place name).toOption.filter fun n =>
            let file := s.world.files.get n
            file.isRegular && file.mode &&& 0o111 ≠ 0).map fun _ => name
        else (s.program? name).map Prod.fst
      match found with
      | some path => put "which" (path ++ ['\n'])
      | none => finish 1

end Precedence.Shell.Tool

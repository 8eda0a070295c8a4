import Precedence.Process
import Precedence.Shell.Command
import Precedence.Shell.Files
/-!
# The state of a shell

What a shell knows about itself, such as its variables and its descriptors, and the world that it
shares with all other processes: the files, and what is open. An `Action` is what a command does to
the state.
-/

namespace Precedence.Shell

/-- A file that is open: descriptors that come from one another share the position in it. -/
structure Stream where
  file : Nat
  position : Nat := 0
  appending : Bool := false
  readable : Bool := true
  writable : Bool := true

structure World where
  files : Files := {}
  streams : Array Stream := #[]
  nextProcess : Nat := 1001
  signals : List (Nat × Nat) := []
  /-- How many microseconds processes have slept. -/
  clock : Nat := 0
  /-- The time at which processes are ended, and the first of them. -/
  deadline : Option (Nat × Nat) := none

structure Variable where
  /-- A variable may have properties before it has a value. -/
  value : Option Bytes
  exported : Bool := false
  readonly : Bool := false

inductive Flow where
  | next
  | exited
  /-- On the way out because of a mistake, which some commands survive. -/
  | failed
  | killed (signal : Nat)
  /-- On the way out of that many further loops. -/
  | broken (loops : Nat)
  /-- On the way to the next turn of a loop, out of that many others. -/
  | continued (loops : Nat)
  | returned
deriving DecidableEq

inductive Progress where
  /-- What it will do to the world when the shell waits for it. -/
  | waiting (run : World → World × ExitStatus)
  | ended (status : ExitStatus)

structure Background where
  process : Nat
  started : Nat
  progress : Progress

structure State where
  world : World := {}
  name : Bytes := "sh".toList
  bindings : List (Bytes × Variable) := []
  functions : List (Bytes × Command) := []
  parameters : List Bytes := []
  options : List Char := []
  /-- What is done when the shell ends (0) or a signal arrives. -/
  traps : List (Nat × Bytes) := []
  /-- The descriptors with the streams that they lead to. -/
  descriptors : List (Nat × Nat) := []
  place : Nat := 0
  here : Bytes := ['/']
  mask : Nat := 0o022
  status : Nat := 0
  flow : Flow := .next
  line : Nat := 1
  command : Option Bytes := none
  loops : Nat := 0
  depth : Nat := 0
  /-- What variables were before they became local, for each of the functions. -/
  locals : List (List (Bytes × Option Variable)) := []
  /-- The process of the shell, which its parts in processes of their own take over. -/
  root : Nat := 1000
  process : Nat := 1000
  parent : Nat := 999
  /-- The commands in the background, the latest first. -/
  background : List Background := []
  /-- The process of the latest command in the background. -/
  latest : Option Nat := none
  /-- The status of the last command that stood in for a word. -/
  substituted : Nat := 0
  /-- The texts of the script that commands read. -/
  documents : List (Nat × Word) := []
  nextDocument : Nat := 0
  /-- The letters behind the current one of an argument with options. -/
  letters : Option Bytes := none
  /-- Commands that were found among the programs. -/
  tracked : List Bytes := []
  aliases : List (Bytes × Bytes) := []
  /-- The status before the action that runs because the shell ends or a signal has arrived. -/
  before : Option Nat := none

abbrev Action := StateM State

namespace State

def option (s : State) (letter : Char) : Bool := letter ∈ s.options

def lookup? (s : State) (name : Bytes) : Option Variable := s.bindings.lookup name

def value? (s : State) (name : Bytes) : Option Bytes := (s.lookup? name).bind Variable.value

def value (s : State) (name : String) : Bytes := (s.value? name.toList).getD []

def putVariable (s : State) (name : Bytes) (entry : Option Variable) : State :=
  let others := s.bindings.filter (·.1 ≠ name)
  { s with bindings := match entry with
      | some entry => (name, entry) :: others
      | none => others }

/-- Gives a value to a variable, whatever its properties. -/
def put (s : State) (name value : Bytes) : State :=
  let old := (s.lookup? name).getD ⟨none, false, false⟩
  let exported := old.exported || s.option 'a'
  let s := s.putVariable name (some { old with value := some value, exported })
  if name = "OPTIND".toList then { s with letters := none } else s

/-- The variables that commands outside of the shell see, by their names. -/
def environment (s : State) : List (Bytes × Bytes) :=
  s.bindings.reverse.filterMap fun (name, entry) =>
    if entry.exported then entry.value.map (name, ·) else none

/-- The parameter of a name, which may be special, if it is set. Those that are a list are not
among them. -/
def parameter? (s : State) (name : Bytes) : Option Bytes :=
  let number (n : Nat) : Option Bytes := some (Number.text n)
  match name with
  | ['?'] => number s.status
  | ['$'] => number s.root
  | ['#'] => number s.parameters.length
  | ['!'] => s.latest.map fun process => Number.text process
  | ['-'] => some (s.options.filter (' ' ≤ ·))
  | _ =>
    match Number.decimal? name with
    | some 0 => some s.name
    | some (n + 1) => s.parameters[n]?
    | none => s.value? name

def separators (s : State) : Bytes := (s.value? "IFS".toList).getD " \t\n".toList

def stream? (s : State) (descriptor : Nat) : Option (Nat × Stream) := do
  let n ← s.descriptors.lookup descriptor
  let stream ← s.world.streams[n]?
  return (n, stream)

def connect (s : State) (descriptor stream : Nat) : State :=
  { s with descriptors := (descriptor, stream) :: s.descriptors.filter (·.1 ≠ descriptor) }

def close (s : State) (descriptor : Nat) : State :=
  { s with descriptors := s.descriptors.filter (·.1 ≠ descriptor) }

def setFiles (s : State) (files : Files) : State := { s with world := { s.world with files } }

def addStream (s : State) (stream : Stream) : Nat × State :=
  (s.world.streams.size,
    { s with world := { s.world with streams := s.world.streams.push stream } })

def moveStream (s : State) (n position : Nat) : State :=
  let streams := s.world.streams.modify n fun stream => { stream with position }
  { s with world := { s.world with streams } }

def addChannel (s : State) : Nat × Nat × State :=
  let (file, files) := s.world.files.create (.channel #[]) 0o600
  let s := s.setFiles files
  let (into, s) := s.addStream { file, appending := true, readable := false }
  let (out, s) := s.addStream { file, writable := false }
  (into, out, s)

def streamContents (s : State) (n : Nat) : List Char :=
  match s.world.streams[n]? with
  | some stream => (s.world.files.get stream.file).contents.toList
  | none => []

/-- How much is read of a source without an end when all of it is asked for. -/
def plenty : Nat := 131072

def write (s : State) (descriptor : Nat) (text : Bytes) : Option Trouble × State :=
  match s.stream? descriptor with
  | none => (some .badDescriptor, s)
  | some (n, stream) =>
    if !stream.writable then (some .badDescriptor, s)
    else
      match (s.world.files.get stream.file).node with
      | .device .full => (if text.isEmpty then none else some .noSpace, s)
      | .regular contents =>
        let position := if stream.appending then contents.size else stream.position
        let s := s.moveStream n (position + text.length)
        (none, s.setFiles (s.world.files.write stream.file (some position) text))
      | .channel _ => (none, s.setFiles (s.world.files.write stream.file none text))
      | _ => (none, s)

/-- Reads at most `limit` bytes from a descriptor; without a limit, all there are. -/
def read (s : State) (descriptor : Nat) (limit : Option Nat) : Except Trouble Bytes × State :=
  match s.stream? descriptor with
  | none => (.error .badDescriptor, s)
  | some (n, stream) =>
    if !stream.readable then (.error .badDescriptor, s)
    else
      match (s.world.files.get stream.file).node with
      | .device .zero | .device .full => (.ok (List.replicate (limit.getD plenty) '\x00'), s)
      | .directory .. => (.error .isDirectory, s)
      | .regular contents | .channel contents =>
        let stop := match limit with
          | some limit => stream.position + limit
          | none => contents.size
        let text := (contents.extract stream.position stop).toList
        (.ok text, s.moveStream n (stream.position + text.length))
      | _ => (.ok [], s)

/-- The characters from a position up to another one, and whether that stands there. -/
def upTo (contents : Array Char) (stop : Char) : Nat → Nat → Bytes × Bool
  | 0, _ => ([], false)
  | fuel + 1, position =>
    match contents[position]? with
    | none => ([], false)
    | some c =>
      if c = stop then ([], true)
      else
        let (rest, ended) := upTo contents stop fuel (position + 1)
        (c :: rest, ended)

/-- Reads from a descriptor up to a character, and tells whether it stands there. -/
def readTo (s : State) (descriptor : Nat) (stop : Char) : Bytes × Bool × State :=
  match s.stream? descriptor with
  | none => ([], false, s)
  | some (n, stream) =>
    let contents := (s.world.files.get stream.file).contents
    let (text, ended) := upTo contents stop (contents.size - stream.position) stream.position
    (text, ended, s.moveStream n (stream.position + text.length + (if ended then 1 else 0)))

/-- The program of a name among the directories of programs. -/
def program? (s : State) (name : Bytes) : Option (Bytes × Nat) :=
  let files := s.world.files
  ((s.value "PATH").splitOn ':').findSome? fun directory =>
    let path := if directory.isEmpty then name else directory ++ '/' :: name
    match files.find s.place path with
    | .ok n =>
      if (files.get n).isRegular && (files.get n).mode &&& 0o111 ≠ 0 then some (path, n) else none
    | .error _ => none

def track (s : State) (path : Bytes) : State :=
  { s with tracked := if s.tracked.contains path then s.tracked else path :: s.tracked }

def expire (s : State) : State :=
  match s.world.deadline with
  | none => s
  | some (time, first) =>
    let late := (List.range s.world.nextProcess).filter (first ≤ ·)
    { s with
      flow := .killed 15
      world := { s.world with
        signals := s.world.signals ++ late.map fun process => (process, 15)
        clock := max s.world.clock time
        deadline := none } }

def complaint (s : State) (text : String) : String :=
  let command := match s.command with
    | some name => String.ofList name ++ ": "
    | none => ""
  s!"{String.ofList s.name}: {s.line}: {command}{text}\n"

end State

def warn (text : String) : Action Unit := modify fun s => (s.write 2 text.toList).2

def complain (text : String) : Action Unit := do warn ((← get).complaint text)

def finish (status : Nat) : Action Unit := modify fun s => { s with status }

/-- Complains about a mistake that the shell does not survive, or the command that runs. -/
def fail (text : String) : Action Unit := do
  complain text
  modify fun s => { s with status := 2, flow := .failed }

def assign (name value : Bytes) : Action Unit := do
  match (← get).lookup? name with
  | some entry =>
    if entry.readonly then fail s!"{String.ofList name}: is read only"
    else modify fun s => s.put name value
  | none => modify fun s => s.put name value

@[inline]
def whenNext (action : Action Unit) : Action Unit := do
  if (← get).flow = .next then action

def openFile (access : Access) (path : Bytes) : Action (Except Trouble Nat) := do
  let s ← get
  let files := s.world.files
  let opened (s : State) (file : Nat) : Action (Except Trouble Nat) := do
    match (s.world.files.get file).node with
    | .device (.descriptor n) =>
      match s.descriptors.lookup n with
      | some stream => return .ok stream
      | none => return .error .absent
    | .directory .. =>
      if access ≠ .read then return .error .isDirectory
    | _ => pure ()
    let files := if access = .write || access = .overwrite then s.world.files.truncate file
      else s.world.files
    let (n, s) := (s.setFiles files).addStream {
      file
      appending := access = .append
      readable := access = .read || access = .readWrite
      writable := access ≠ .read }
    set s
    return .ok n
  match files.find s.place path with
  | .ok file =>
    if access = .write && s.option 'C' && (files.get file).isRegular then return .error .existing
    opened s file
  | .error .absent =>
    if access = .read || path.getLast? = some '/' then
      return .error (if access ≠ .read && !path.isEmpty then .isDirectory else .absent)
    else
      match files.findParent s.place path with
      | .error trouble => return .error trouble
      | .ok (directory, name) =>
        match (files.entries directory).lookup name with
        | some _ => return .error .absent
        | none =>
          let (file, files) :=
            files.add directory name (.regular #[]) (0o666 &&& (0o777 ^^^ s.mask))
          opened (s.setFiles files) file
  | .error trouble => return .error trouble

end Precedence.Shell

import Precedence.Shell.Number
import Precedence.Trouble

namespace Precedence.Shell

inductive Device where
  | null
  | zero
  | full
  /-- The file that is open at a descriptor. -/
  | descriptor (n : Nat)
deriving DecidableEq

inductive Node where
  | directory (parent : Nat) (entries : List (Bytes × Nat))
  | regular (contents : Array Char)
  | link (target : Bytes)
  /-- A program, by its name. -/
  | program (name : String)
  | device (device : Device)
  | channel (contents : Array Char)

/-- A file with its permissions, and when it was changed. -/
structure File where
  node : Node
  mode : Nat
  changed : Nat := 0

def File.isDirectory (file : File) : Bool :=
  match file.node with
  | .directory .. => true
  | _ => false

def File.isRegular (file : File) : Bool :=
  match file.node with
  | .regular _ | .program _ => true
  | _ => false

def File.isLink (file : File) : Bool :=
  match file.node with
  | .link _ => true
  | _ => false

def File.contents (file : File) : Array Char :=
  match file.node with
  | .regular contents | .channel contents => contents
  | .program name => ("\x7fELF" ++ name).toList.toArray
  | _ => #[]

/-- All files. The first one is the root directory. -/
structure Files where
  table : Array File := #[⟨.directory 0 [], 0o755, 0⟩]
  clock : Nat := 1

namespace Files

def get (files : Files) (n : Nat) : File := (files.table[n]?).getD ⟨.channel #[], 0, 0⟩

def create (files : Files) (node : Node) (mode : Nat) : Nat × Files :=
  let table := files.table.push ⟨node, mode, files.clock⟩
  (files.table.size, { table, clock := files.clock + 1 })

def setNode (files : Files) (n : Nat) (node : Node) : Files :=
  { table := files.table.modify n fun file => { file with node, changed := files.clock }
    clock := files.clock + 1 }

def setMode (files : Files) (n mode : Nat) : Files :=
  { files with table := files.table.modify n fun file => { file with mode } }

def touch (files : Files) (n : Nat) : Files :=
  { table := files.table.modify n fun file => { file with changed := files.clock }
    clock := files.clock + 1 }

/-- The text with `more` in the place of what stood from a position on. -/
def splice (contents : Array Char) (position : Nat) (more : Bytes) : Array Char :=
  if position = contents.size then contents ++ more
  else
    let gap := List.replicate (position - contents.size) '\x00'
    (contents.extract 0 position ++ gap ++ more) ++
      contents.extract (position + more.length) contents.size

/-- Writes into a file from a position on, or at its end. -/
def write (files : Files) (n : Nat) (position : Option Nat) (more : Bytes) : Files :=
  { table := files.table.modify n fun file =>
      match file with
      | ⟨.regular contents, mode, _⟩ =>
        ⟨.regular (splice contents (position.getD contents.size) more), mode, files.clock⟩
      | ⟨.channel contents, mode, _⟩ => ⟨.channel (contents ++ more), mode, files.clock⟩
      | file => file
    clock := files.clock + 1 }

def truncate (files : Files) (n : Nat) : Files :=
  match (files.get n).node with
  | .regular _ => files.setNode n (.regular #[])
  | _ => files

def entries (files : Files) (n : Nat) : List (Bytes × Nat) :=
  match (files.get n).node with
  | .directory _ entries => entries
  | _ => []

def names (files : Files) (n : Nat) : List Bytes :=
  ((files.entries n).map Prod.fst).mergeSort Bytes.le

def setEntries (files : Files) (n : Nat) (entries : List (Bytes × Nat)) : Files :=
  match (files.get n).node with
  | .directory parent _ => files.setNode n (.directory parent entries)
  | _ => files

def link (files : Files) (directory : Nat) (name : Bytes) (n : Nat) : Files :=
  let files := files.setEntries directory
    ((files.entries directory).filter (·.1 ≠ name) ++ [(name, n)])
  match (files.get n).node with
  | .directory _ entries => files.setNode n (.directory directory entries)
  | _ => files

def unlink (files : Files) (directory : Nat) (name : Bytes) : Files :=
  files.setEntries directory ((files.entries directory).filter (·.1 ≠ name))

/-- The parts of a path between slashes. A slash at the end asks for a directory. -/
def components (path : Bytes) : List Bytes :=
  let parts := path.splitOn '/'
  let named := parts.filter (!·.isEmpty)
  if parts.getLast? = some [] && !named.isEmpty then named ++ [['.']] else named

/-- The file that the parts of a path lead to from a directory. Links on the way are followed, and
the last one too if `follow` is set. -/
def walk (files : Files) (follow : Bool) : Nat → Nat → List Bytes → Except Trouble Nat
  | 0, _, _ => .error .loop
  | _ + 1, place, [] => .ok place
  | fuel + 1, place, name :: rest =>
    match (files.get place).node with
    | .directory parent entries =>
      if name = ['.'] then files.walk follow fuel place rest
      else if name = ['.', '.'] then files.walk follow fuel parent rest
      else
        match entries.lookup name with
        | none => .error (if name.length ≤ 255 then .absent else .longName)
        | some n =>
          match (files.get n).node with
          | .link target =>
            if rest.isEmpty && !follow then .ok n
            else
              let start := if target.head? = some '/' then 0 else place
              files.walk follow fuel start (components target ++ rest)
          | _ => files.walk follow fuel n rest
    | _ => .error .notDirectory

def find (files : Files) (place : Nat) (path : Bytes) (follow : Bool := true) :
    Except Trouble Nat :=
  if path.isEmpty then .error .absent
  else
    let start := if path.head? = some '/' then 0 else place
    let parts := components path
    files.walk follow (parts.length + 1000) start parts

def findParent (files : Files) (place : Nat) (path : Bytes) : Except Trouble (Nat × Bytes) := do
  let parts := (path.splitOn '/').filter (!·.isEmpty)
  match parts.getLast? with
  | none => .error (if path.isEmpty then .absent else .existing)
  | some name =>
    let start := if path.head? = some '/' then 0 else place
    let directory ← files.walk true 1000 start parts.dropLast
    if (files.get directory).isDirectory then return (directory, name) else .error .notDirectory

def add (files : Files) (directory : Nat) (name : Bytes) (node : Node) (mode : Nat) : Nat × Files :=
  let (n, files) := files.create node mode
  (n, files.link directory name n)

def addPath (files : Files) (place : Nat) : List Bytes → Nat × Files
  | [] => (place, files)
  | name :: rest =>
    match (files.entries place).lookup name with
    | some n => files.addPath n rest
    | none =>
      let (n, files) := files.add place name (.directory place []) 0o755
      files.addPath n rest

def pathOf (files : Files) : Nat → Nat → Bytes
  | 0, _ => []
  | fuel + 1, n =>
    match (files.get n).node with
    | .directory parent _ =>
      if n = 0 then []
      else
        match (files.entries parent).find? (·.2 = n) with
        | some (name, _) => files.pathOf fuel parent ++ '/' :: name
        | none => []
    | _ => []

def truePath (files : Files) (n : Nat) : Bytes :=
  match files.pathOf 1000 n with
  | [] => ['/']
  | path => path

end Files

end Precedence.Shell

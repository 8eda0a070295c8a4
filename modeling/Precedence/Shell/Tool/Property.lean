import Precedence.Shell.Tool.Place

namespace Precedence.Shell.Tool

def chmod : Tool := fun arguments =>
  -- A mode may start with a dash.
  let (front, rest) :=
    arguments.span fun cs => cs = "-R".toList || cs = "-v".toList || cs = "-f".toList
  match rest with
  | [] => misuse "chmod" "missing operand"
  | [mode] => misuse "chmod" s!"missing operand after '{shown mode}'"
  | mode :: paths => do
    for path in paths do
      let s ← get
      match s.world.files.find s.place path with
      | .error trouble => refuse "chmod" s!"cannot access '{shown path}': {trouble.text}"
      | .ok n =>
        let rec all : Nat → Files → Nat → Option Files
          | 0, files, _ => some files
          | fuel + 1, files, n => do
            let file := files.get n
            let conditional := if file.isDirectory || file.mode &&& 0o111 ≠ 0 then 1 else 0
            let changed ← Builtin.changeMode file.mode s.mask conditional mode
            let files := files.setMode n changed
            if front.contains "-R".toList then
              (files.entries n).foldlM (fun files entry => all fuel files entry.2) files
            else return files
        match all 1000 s.world.files n with
        | some files => set (s.setFiles files)
        | none => misuse "chmod" s!"invalid mode: '{shown mode}'"

/-- The path of a file without links. Its last part may be missing, or with `lax` every part, and
with `strict` none. -/
def truePathOf (files : Files) (lax strict : Bool) : Nat → Nat → List Bytes → Option Bytes
  | 0, _, _ => none
  | _ + 1, place, [] => some (files.truePath place)
  | fuel + 1, place, name :: rest =>
    let here := files.truePath place
    let join (name : Bytes) : Bytes := if here = ['/'] then '/' :: name else here ++ '/' :: name
    let parent := match (files.get place).node with
      | .directory parent _ => parent
      | _ => place
    if name = ['.'] then truePathOf files lax strict fuel place rest
    else if name = ['.', '.'] then truePathOf files lax strict fuel parent rest
    else
      match (files.entries place).lookup name with
      | none =>
        let isLast := rest.all fun part => part = ['.']
        if lax then some (['/'].intercalate (join name :: rest))
        else if isLast && !strict then some (join name)
        else none
      | some n =>
        match (files.get n).node with
        | .directory .. => truePathOf files lax strict fuel n rest
        | .link target =>
          let start := if target.head? = some '/' then 0 else place
          truePathOf files lax strict fuel start (Files.components target ++ rest)
        | _ =>
          if rest.isEmpty then some (join name)
          else if lax then some (['/'].intercalate (join name :: rest))
          else none

def truePath (s : State) (options : List Chosen) (path : Bytes) : Option Bytes :=
  let start := if path.head? = some '/' then 0 else s.place
  if path.isEmpty then none
  else
    truePathOf s.world.files (has 'm' options) (has 'e' options) 1000 start (Files.components path)

def readlink : Tool := fun arguments =>
  withChoice "readlink" (letters "fenmqsvz" "") false 1 arguments fun options paths => do
    if paths.isEmpty then misuse "readlink" "missing operand"
    for path in paths do
      let s ← get
      let ended : Bytes := if has 'n' options then [] else ['\n']
      if has 'f' options || has 'e' options || has 'm' options then
        match truePath s options path with
        | some found => put "readlink" (found ++ ended)
        | none => finish 1
      else
        let found := (s.world.files.find s.place path false).toOption
        match found.map fun n => (s.world.files.get n).node with
        | some (.link target) => put "readlink" (target ++ ended)
        | _ => finish 1

def realpath : Tool := fun arguments =>
  withChoice "realpath" (letters "emLPqsz" "") false 1 arguments fun options paths => do
    if paths.isEmpty then misuse "realpath" "missing operand"
    for path in paths do
      let s ← get
      match truePath s options path with
      | some found => put "realpath" (found ++ ['\n'])
      | none =>
        if !has 'q' options then refuse "realpath" s!"{shown path}: No such file or directory"
        else finish 1

def namesOf (files : Files) (n : Nat) : Nat :=
  if (files.get n).isDirectory then
    2 + ((files.entries n).filter fun entry => (files.get entry.2).isDirectory).length
  else
    (files.table.toList.map fun file =>
      match file.node with
      | .directory _ entries => (entries.filter (·.2 = n)).length
      | _ => 0).foldl (· + ·) 0

def kindOf (file : File) : String :=
  match file.node with
  | .directory .. => "directory"
  | .link _ => "symbolic link"
  | .device _ => "character special file"
  | .channel _ => "fifo"
  | _ => if file.contents.isEmpty then "regular empty file" else "regular file"

/-- What a format of `stat` says about a file. -/
def described (files : Files) (path : Bytes) (n : Nat) (escapes : Bool) : Nat → Bytes → Bytes
  | 0, _ => []
  | _ + 1, [] => []
  | fuel + 1, '%' :: letter :: rest =>
    let file := files.get n
    let text := match letter with
      | 'n' => path
      | 'N' => '\'' :: path ++ ['\''] ++ match file.node with
        | .link target => " -> '".toList ++ target ++ ['\'']
        | _ => []
      | 's' => Number.text (sizeOf file)
      | 'a' => Nat.toDigits 8 file.mode
      | 'A' => modeText file
      | 'F' => (kindOf file).toList
      | 'U' | 'G' => "root".toList
      | 'u' | 'g' => ['0']
      | 'h' => Number.text (namesOf files n)
      | 'i' => Number.text n
      | '%' => ['%']
      | c => ['?', c].take 1
    text ++ described files path n escapes fuel rest
  | fuel + 1, '\\' :: rest =>
    if escapes then
      let (c, rest) := escape rest
      c :: described files path n escapes fuel rest
    else '\\' :: described files path n escapes fuel rest
  | fuel + 1, c :: rest => c :: described files path n escapes fuel rest

def stat : Tool := fun arguments =>
  let allowed := letters "Lft" "c" ++ settings [('c', "format"), ('P', "printf")]
  withChoice "stat" allowed false 1 arguments fun options paths => do
    if paths.isEmpty then misuse "stat" "missing operand"
    for path in paths do
      let s ← get
      match s.world.files.find s.place path (has 'L' options) with
      | .error trouble => refuse "stat" s!"cannot statx '{shown path}': {trouble.text}"
      | .ok n =>
        let files := s.world.files
        match last? 'P' options, last? 'c' options with
        | some format, _ => put "stat" (described files path n true (format.length + 1) format)
        | none, some format =>
          put "stat" (described files path n false (format.length + 1) format ++ ['\n'])
        | none, none =>
          put "stat" (described files path n true 100
            "  File: %N\n  Size: %s\tBlocks: 8\tIO Block: 4096   %F\nAccess: (%a/%A)\n".toList)

end Precedence.Shell.Tool

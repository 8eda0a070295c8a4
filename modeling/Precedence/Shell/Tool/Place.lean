import Precedence.Shell.Tool.Value

namespace Precedence.Shell.Tool

def shown (path : Bytes) : String := String.ofList path

/-- Changes the files; where that is not possible, the program complains. -/
def arrange (tool : String) (what : String) (change : Files → Nat → Except Trouble Files) :
    Action Unit := do
  let s ← get
  match change s.world.files s.place with
  | .ok files => set (s.setFiles files)
  | .error trouble => refuse tool s!"{what}: {trouble.text}"

/-! ## Listing -/

/-- The mark behind a name that tells what kind of file it is. -/
def kindMark (file : File) : Bytes :=
  match file.node with
  | .directory .. => ['/']
  | .link _ => ['@']
  | .channel _ => ['|']
  | _ => if file.isRegular && file.mode &&& 0o111 ≠ 0 then ['*'] else []

def modeText (file : File) : Bytes :=
  let kind := match file.node with
    | .directory .. => 'd'
    | .link _ => 'l'
    | .device _ => 'c'
    | .channel _ => 'p'
    | _ => '-'
  let bits (n : Nat) : Bytes := [if n &&& 4 ≠ 0 then 'r' else '-', if n &&& 2 ≠ 0 then 'w' else '-',
    if n &&& 1 ≠ 0 then 'x' else '-']
  kind :: bits (file.mode >>> 6) ++ bits (file.mode >>> 3) ++ bits file.mode

def sizeOf (file : File) : Nat :=
  match file.node with
  | .directory .. => 4096
  | .link target => target.length
  | _ => file.contents.size

structure Listing where
  options : List Chosen
  files : Files

namespace Listing

def on (l : Listing) (cs : String) : Bool := cs.toList.any fun c => has c l.options

def ordered (l : Listing) (entries : List (Bytes × Nat)) : List (Bytes × Nat) :=
  let byName := entries.mergeSort fun a b => Bytes.le a.1 b.1
  let sorted :=
    if l.on "U" then entries
    else if l.on "t" then byName.mergeSort fun a b =>
      decide ((l.files.get b.2).changed ≤ (l.files.get a.2).changed)
    else if l.on "S" then byName.mergeSort fun a b =>
      decide (sizeOf (l.files.get b.2) ≤ sizeOf (l.files.get a.2))
    else byName
  if l.on "r" then sorted.reverse else sorted

def line (l : Listing) (width : Nat) (entry : Bytes × Nat) : Bytes :=
  let file := l.files.get entry.2
  let mark := if l.on "F" then kindMark file else if l.on "p" && file.isDirectory then ['/'] else []
  let number := if l.on "i" then Number.text entry.2 ++ [' '] else []
  let long := if l.on "l" then
      modeText file ++ " 1 root root ".toList ++ pad false ' ' width (Number.text (sizeOf file)) ++
        " Jan  1 00:00 ".toList
    else []
  let arrow := match l.on "l", file.node with
    | true, .link target => " -> ".toList ++ target
    | _, _ => []
  let name := if l.on "Q" then '"' :: entry.1 ++ ['"'] else entry.1
  number ++ long ++ name ++ mark ++ arrow ++ ['\n']

def lines (l : Listing) (entries : List (Bytes × Nat)) : Bytes :=
  let width :=
    (entries.map fun entry => (Number.text (sizeOf (l.files.get entry.2))).length).foldl max 0
  let entries := l.ordered entries
  if l.on "m" && !entries.isEmpty then
    ", ".toList.intercalate (entries.map Prod.fst) ++ ['\n']
  else entries.flatMap (l.line width)

def entriesOf (l : Listing) (n : Nat) : List (Bytes × Nat) :=
  let parent := match (l.files.get n).node with
    | .directory parent _ => parent
    | _ => n
  let all := (if l.on "a" then [(['.'], n), (['.', '.'], parent)] else []) ++ l.files.entries n
  if l.on "aA" then all else all.filter fun entry => entry.1.head? ≠ some '.'

def directory (l : Listing) (headed : Bool) : Nat → Bytes → Nat → Bytes
  | 0, _, _ => []
  | fuel + 1, path, n =>
    let entries := l.entriesOf n
    let blocks := entries.foldr
      (fun entry sum => (sizeOf (l.files.get entry.2) + 4095) / 4096 * 4 + sum) 0
    let total := if l.on "l" then s!"total {blocks}\n".toList else []
    let front := if headed then path ++ ":\n".toList else []
    let inner := if l.on "R" then
        (l.ordered (l.files.entries n)).flatMap fun entry =>
          if (l.files.get entry.2).isDirectory && (l.on "aA" || entry.1.head? ≠ some '.') then
            '\n' :: l.directory true fuel (pathBelow path entry.1) entry.2
          else []
      else []
    front ++ total ++ l.lines entries ++ inner

end Listing

def ls : Tool := fun arguments =>
  let allowed := letters "1aAdlrRtSFpiUmhCcfgknoqsuxLHXNQ" "Iw" ++
    flags [('a', "all"), ('A', "almost-all"), ('r', "reverse"), ('R', "recursive"),
      ('d', "directory"), ('F', "classify")] ++ markers [('K', "color")]
  withChoice "ls" allowed false 2 arguments fun options paths => do
    let s ← get
    let l : Listing := ⟨options, s.world.files⟩
    let mut plain : Array (Bytes × Nat) := #[]
    let mut directories : Array (Bytes × Nat) := #[]
    for path in if paths.isEmpty then [['.']] else paths do
      let followed := s.world.files.find s.place path (!l.on "l" && !l.on "d")
      let found := match followed with
        | .error _ => s.world.files.find s.place path false
        | found => found
      match found with
      | .error trouble => refuse "ls" s!"cannot access '{shown path}': {trouble.text}" 2
      | .ok n =>
        if (s.world.files.get n).isDirectory && !l.on "d" then
          directories := directories.push (path, n)
        else plain := plain.push (path, n)
    put "ls" (l.lines plain.toList)
    let headed := paths.length > 1 || l.on "R"
    for ((path, n), k) in (l.ordered directories.toList).zipIdx do
      let gap := if k = 0 && plain.isEmpty then [] else ['\n']
      put "ls" (gap ++ l.directory headed 1000 path n)
    if (← get).status = 1 then finish 2

/-! ## Making -/

def mkdir : Tool := fun arguments =>
  let allowed := flags [('p', "parents"), ('v', "verbose")] ++ settings [('m', "mode")]
  withChoice "mkdir" allowed false 1 arguments fun options paths => do
    if paths.isEmpty then misuse "mkdir" "missing operand"
    for path in paths do
      let s ← get
      let mode := 0o777 &&& (0o777 ^^^ s.mask)
      let mode := ((last? 'm' options).bind (Builtin.changeMode 0o777 0 0)).getD mode
      let make (files : Files) (path : Bytes) : Except Trouble Files := do
        let (directory, name) ← files.findParent s.place path
        let existing := ((files.entries directory).lookup name).isSome
        if name = ['.'] || name = ['.', '.'] || existing then .error .existing
        return (files.add directory name (.directory directory []) mode).2
      let announce (path : Bytes) : Action Unit := do
        if has 'v' options && (← get).status = 0 then
          put "mkdir" s!"mkdir: created directory '{shown path}'\n".toList
      if has 'p' options then
        let parts := (path.splitOn '/').filter (!·.isEmpty)
        let start := if path.head? = some '/' then ['/'] else []
        for n in List.range parts.length do
          let front := start ++ ['/'].intercalate (parts.take (n + 1))
          let s ← get
          match s.world.files.find s.place front with
          | .ok n =>
            if !(s.world.files.get n).isDirectory && (← get).status = 0 then
              refuse "mkdir" (s!"cannot create directory '{shown front}': " ++
                if front.length < path.length then "Not a directory" else "File exists")
          | .error _ =>
            if (← get).status = 0 then
              arrange "mkdir" s!"cannot create directory '{shown front}'" fun files _ =>
                make files front
              announce front
      else
        arrange "mkdir" s!"cannot create directory '{shown path}'" fun files _ => make files path
        announce path

def touch : Tool := fun arguments =>
  withChoice "touch" (letters "acmfh" "dtr") false 1 arguments fun options paths => do
    if paths.isEmpty then misuse "touch" "missing file operand"
    for path in paths do
      let s ← get
      match s.world.files.find s.place path with
      | .ok n => set (s.setFiles (s.world.files.touch n))
      | .error .absent =>
        if !has 'c' options then
          arrange "touch" s!"cannot touch '{shown path}'" fun files place => do
            if path.getLast? = some '/' then .error .absent
            let (directory, name) ← files.findParent place path
            return (files.add directory name (.regular #[]) (0o666 &&& (0o777 ^^^ s.mask))).2
      | .error trouble => refuse "touch" s!"cannot touch '{shown path}': {trouble.text}"

/-- Whether what was found is a directory, if anything was. -/
def isDirectory? (files : Files) (found : Option Nat) : Option Bool :=
  found.map fun n => (files.get n).isDirectory

/-- Where a file goes that is put at a path: into a directory under its own name, or there. -/
def destination (files : Files) (place : Nat) (source target : Bytes) : Bytes :=
  match files.find place target with
  | .ok n =>
    if (files.get n).isDirectory then pathBelow target (baseOf source []) else target
  | .error _ => target

def ln : Tool := fun arguments =>
  let allowed := letters "sfnvTir" "t" ++ flags [('s', "symbolic"), ('f', "force")]
  withChoice "ln" allowed false 1 arguments fun options paths => do
    let link (source target : Bytes) : Action Unit := do
      let s ← get
      let target := destination s.world.files s.place source target
      let kind := if has 's' options then "symbolic" else "hard"
      let what := s!"failed to create {kind} link '{shown target}'"
      let found := (s.world.files.find s.place source).toOption
      if !has 's' options && found.isNone then
        refuse "ln" s!"failed to access '{shown source}': No such file or directory"
      else if !has 's' options && isDirectory? s.world.files found = some true then
        refuse "ln" s!"{shown source}: hard link not allowed for directory"
      else
        arrange "ln" what fun files place => do
          let (directory, name) ← files.findParent place target
          let files ← match (files.entries directory).lookup name with
            | none => pure files
            | some _ =>
              if has 'f' options then pure (files.unlink directory name) else .error .existing
          if has 's' options then return (files.add directory name (.link source) 0o777).2
          else
            let n ← files.find place source
            return files.link directory name n
    match paths with
    | [] => misuse "ln" "missing file operand"
    | [source] => link source ['.']
    | [source, target] => link source target
    | _ =>
      let target := paths.getLast?.getD []
      for source in paths.dropLast do link source target

/-! ## Removing -/

/-- Removes a name from a directory, with all that is below it. -/
def removeTree (files : Files) : Nat → Nat → Bytes → Files
  | 0, _, _ => files
  | fuel + 1, directory, name =>
    match (files.entries directory).lookup name with
    | none => files
    | some n =>
      let files := if (files.get n).isDirectory then
          (files.names n).foldl (fun files name => removeTree files fuel n name) files
        else files
      files.unlink directory name

/-- The names of a file and all below it, the innermost first, and whether they are directories. -/
def innermostFirst (files : Files) : Nat → Bytes → Nat → List (Bytes × Bool)
  | 0, _, _ => []
  | fuel + 1, path, n =>
    let isDirectory := (files.get n).isDirectory
    let inner := (files.names n).flatMap fun name =>
      match (files.entries n).lookup name with
      | some inner => innermostFirst files fuel (path ++ '/' :: name) inner
      | none => []
    inner ++ [(path, isDirectory)]

def rm : Tool := fun arguments =>
  let allowed := letters "rRfivdI" "" ++ flags [('r', "recursive"), ('f', "force")]
  withChoice "rm" allowed false 1 arguments fun options paths => do
    if paths.isEmpty && !has 'f' options then misuse "rm" "missing operand"
    for path in paths do
      let s ← get
      let recursive := has 'r' options || has 'R' options
      let last := baseOf path []
      match s.world.files.find s.place path false with
      | .error trouble =>
        if !(has 'f' options && (trouble = .absent || trouble = .notDirectory)) then
          refuse "rm" s!"cannot remove '{shown path}': {trouble.text}"
      | .ok n =>
        let isDirectory := (s.world.files.get n).isDirectory
        if isDirectory && !recursive && !has 'd' options then
          refuse "rm" s!"cannot remove '{shown path}': Is a directory"
        else if recursive && (last = ['.'] || last = ['.', '.']) then
          refuse "rm" s!"refusing to remove '.' or '..' directory: skipping '{shown path}'"
        else if recursive && n = 0 then
          warn "rm: it is dangerous to operate recursively on '/'\n"
          refuse "rm" "use --no-preserve-root to override this failsafe"
        else if isDirectory && !recursive && !(s.world.files.entries n).isEmpty then
          refuse "rm" s!"cannot remove '{shown path}': Directory not empty"
        else
          let removed := innermostFirst s.world.files 1000 path n
          arrange "rm" s!"cannot remove '{shown path}'" fun files place => do
            let (directory, name) ← files.findParent place path
            return removeTree files 1000 directory name
          if has 'v' options then
            for (path, isDirectory) in removed do
              put "rm" (s!"removed " ++ (if isDirectory then "directory " else "") ++
                s!"'{shown path}'\n").toList

def rmdir : Tool := fun arguments =>
  let allowed := flags [('p', "parents"), ('v', "verbose"), ('i', "ignore-fail-on-non-empty")]
  withChoice "rmdir" allowed false 1 arguments fun options paths => do
    if paths.isEmpty then misuse "rmdir" "missing operand"
    let remove (path : Bytes) : Action Unit :=
      arrange "rmdir" s!"failed to remove '{shown path}'" fun files place => do
        let n ← files.find place path false
        if !(files.get n).isDirectory then .error .notDirectory
        if !(files.entries n).isEmpty then .error .notEmpty
        let (directory, name) ← files.findParent place path
        return files.unlink directory name
    for path in paths do
      remove path
      if has 'p' options then
        let parts := path.splitOn '/'
        for k in List.range (parts.length - 1) do
          if (← get).status = 0 then
            remove (['/'].intercalate (parts.take (parts.length - 1 - k)))

/-! ## Copying and moving -/

/-- Copies a file, with all that is below it if it is a directory, to a name in a directory. -/
def copyTree (links : Bool) : Nat → Files → Nat → Nat → Bytes → Files
  | 0, files, _, _, _ => files
  | fuel + 1, files, n, directory, name =>
    let source := files.get n
    match source.node with
    | .directory _ entries =>
      let (target, files) := match (files.entries directory).lookup name with
        | some target => (target, files)
        | none => files.add directory name (.directory directory []) source.mode
      entries.foldl (fun files (name, n) => copyTree links fuel files n target name) files
    | .link path => if links then (files.add directory name (.link path) 0o777).2 else files
    | node =>
      let contents := source.contents
      match (files.entries directory).lookup name with
      | some target => files.setNode target (.regular contents)
      | none =>
        match node with
        | .program tool => (files.add directory name (.program tool) source.mode).2
        | _ => (files.add directory name (.regular contents) source.mode).2

def isWithin (files : Files) (outer : Nat) : Nat → Nat → Bool
  | 0, _ => false
  | fuel + 1, n =>
    n = outer || match (files.get n).node with
      | .directory parent _ => parent ≠ n && isWithin files outer fuel parent
      | _ => false

/-- The sources and the target of a program that puts files somewhere. -/
def withTarget (tool : String) (options : List Chosen) (paths : List Bytes)
    (run : Bytes → Bytes → Action Unit) : Action Unit := do
  match last? 't' options, paths with
  | some target, sources => for source in sources do run source target
  | none, [] => misuse tool "missing file operand"
  | none, [source] => misuse tool s!"missing destination file operand after '{shown source}'"
  | none, paths =>
    let target := paths.getLast?.getD []
    let s ← get
    let isDirectory := match s.world.files.find s.place target with
      | .ok n => (s.world.files.get n).isDirectory
      | .error _ => false
    if paths.length > 2 && !isDirectory then
      let found := (s.world.files.find s.place target).toOption.isSome
      let trouble : Trouble := if found then .notDirectory else .absent
      refuse tool s!"target '{shown target}': {trouble.text}"
    else
      for source in paths.dropLast do run source target

def overDirectory (path source : Bytes) : String :=
  s!"cannot overwrite non-directory '{shown path}' with directory '{shown source}'"

def cp : Tool := fun arguments =>
  let allowed := letters "rRafpnvidPLuTlsx" "t" ++
    flags [('r', "recursive"), ('f', "force"), ('a', "archive"), ('n', "no-clobber")]
  withChoice "cp" allowed false 1 arguments fun options paths =>
    withTarget "cp" options paths fun source target => do
      let s ← get
      let files := s.world.files
      let recursive := has 'r' options || has 'R' options || has 'a' options
      let links := (recursive || has 'P' options || has 'd' options) && !has 'L' options
      match files.find s.place source (!links) with
      | .error trouble => refuse "cp" s!"cannot stat '{shown source}': {trouble.text}"
      | .ok n =>
        let isDirectory := (files.get n).isDirectory
        if isDirectory && !recursive then
          refuse "cp" s!"-r not specified; omitting directory '{shown source}'"
        else
          let path := destination files s.place source target
          let within := match files.findParent s.place path with
            | .ok (directory, _) => isDirectory && isWithin files n 1000 directory
            | .error _ => false
          if within then
            refuse "cp" s!"cannot copy a directory, '{shown source}', into itself, '{shown path}'"
            return
          match files.find s.place path with
          | .ok other =>
            if other = n then refuse "cp" s!"'{shown source}' and '{shown path}' are the same file"
            else if isDirectory && !(files.get other).isDirectory then
              refuse "cp" (overDirectory path source)
            else if has 'n' options then pure ()
            else
              match (files.get other).node with
              | .device _ =>
                match ← openFile .write path with
                | .ok stream =>
                  writeTo stream (files.get n).contents.toList
                | .error trouble =>
                  refuse "cp" s!"cannot create regular file '{shown path}': {trouble.text}"
              | _ =>
                arrange "cp" s!"cannot create regular file '{shown path}'" fun files place => do
                  let (directory, name) ← files.findParent place path
                  return copyTree links 1000 files n directory name
          | .error _ =>
            let what := if isDirectory then "directory" else "regular file"
            arrange "cp" s!"cannot create {what} '{shown path}'" fun files place => do
              let (directory, name) ← files.findParent place path
              if path.getLast? = some '/' && !isDirectory then .error .notDirectory
              return copyTree links 1000 files n directory name
          if has 'v' options && (← get).status = 0 then
            put "cp" s!"'{shown source}' -> '{shown path}'\n".toList

def mv : Tool := fun arguments =>
  let allowed := letters "fnivuT" "t" ++ flags [('f', "force"), ('n', "no-clobber")]
  withChoice "mv" allowed false 1 arguments fun options paths =>
    withTarget "mv" options paths fun source target => do
      let s ← get
      let files := s.world.files
      match files.find s.place source false with
      | .error trouble => refuse "mv" s!"cannot stat '{shown source}': {trouble.text}"
      | .ok n =>
        let path := destination files s.place source target
        let existing := (files.find s.place path false).toOption
        let within := match files.findParent s.place path with
          | .ok (directory, _) => (files.get n).isDirectory && isWithin files n 1000 directory
          | .error _ => false
        if within && existing ≠ some n then
          refuse "mv" s!"cannot move '{shown source}' to a subdirectory of itself, '{shown path}'"
        else if existing = some n then
          refuse "mv" s!"'{shown source}' and '{shown path}' are the same file"
        else if existing.isSome && has 'n' options then pure ()
        else if (files.get n).isDirectory && isDirectory? files existing = some false then
          refuse "mv" (overDirectory path source)
        else if !(files.get n).isDirectory && isDirectory? files existing = some true then
          refuse "mv" s!"cannot overwrite directory '{shown path}' with non-directory"
        else if (existing.map fun k => (files.entries k).isEmpty) = some false then
          refuse "mv" s!"cannot move '{shown source}' to '{shown path}': Directory not empty"
        else
          arrange "mv" s!"cannot move '{shown source}' to '{shown path}'" fun files place => do
            let (origin, old) ← files.findParent place source
            let (directory, name) ← files.findParent place path
            return (files.unlink origin old).link directory name n
          if has 'v' options && (← get).status = 0 then
            put "mv" s!"renamed '{shown source}' -> '{shown path}'\n".toList

end Precedence.Shell.Tool

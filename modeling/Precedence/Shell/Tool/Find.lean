import Precedence.Shell.Tool.Launcher
import Precedence.Shell.Tool.Place

namespace Precedence.Shell.Tool

namespace Find

inductive Condition where
  | always (answer : Bool)
  | named (pattern : Pattern) (caseless : Bool)
  | under (pattern : Pattern)
  | kind (letters : Bytes)
  | empty
  | newer (time : Nat)
  /-- The size in units, which may also be exceeded or not be reached. -/
  | size (compare : Char) (count unit : Nat)
  | mode (mode : Nat)
  | print (stop : Char)
  | format (text : Bytes)
  | delete
  | prune
  | quit
  | run (words : List Bytes)
  /-- A program that is run once, with all files. -/
  | collect (words : List Bytes)
  | invert (condition : Condition)
  | both (first second : Condition)
  | either (first second : Condition)

structure Range where
  least : Nat := 0
  most : Nat := 1000
  innerFirst : Bool := false
  acts : Bool := false

abbrev Reader := StateT (List Bytes × Range) (Except String)

def plain (text : Bytes) : Pattern := text.map fun char => ⟨char, false⟩

def operand (name : String) : Reader Bytes := do
  match (← get).1 with
  | first :: rest =>
    modify fun s => (rest, s.2)
    return first
  | [] => throw s!"missing argument to \x60{name}'"

def acting : Reader Unit := modify fun (words, range) => (words, { range with acts := true })

def lower (text : Bytes) : Bytes := text.map Char.toLower

/-- The words of a program up to a semicolon or a plus sign. -/
def command (name : String) : Reader Condition := do
  let (words, rest) := (← get).1.span fun word => word ≠ [';'] && word ≠ ['+']
  match rest with
  | [] => throw s!"missing argument to \x60{name}'"
  | last :: rest =>
    set (rest, (← get).2)
    acting
    return if last = ['+'] then .collect (words.filter (· ≠ "\x7b\x7d".toList)) else .run words

def sized (text : Bytes) : Condition :=
  let (compare, text) := match text with
    | '+' :: rest => ('+', rest)
    | '-' :: rest => ('-', rest)
    | text => ('=', text)
  let (digits, unit) := text.span Char.isDigit
  let unit := match unit with
    | ['c'] => 1
    | ['w'] => 2
    | ['k'] => 1024
    | ['M'] => 1048576
    | ['G'] => 1073741824
    | _ => 512
  .size compare ((Number.decimal? digits).getD 0) unit

mutual

def anyOf (changed : Bytes → Except String Nat) : Nat → Reader Condition
  | 0 => return .always true
  | fuel + 1 => do
    let first ← allOf changed fuel
    match (← get).1 with
    | word :: rest =>
      if word = "-o".toList || word = "-or".toList then
        modify fun s => (rest, s.2)
        return .either first (← anyOf changed fuel)
      else return first
    | [] => return first

def allOf (changed : Bytes → Except String Nat) : Nat → Reader Condition
  | 0 => return .always true
  | fuel + 1 => do
    let first ← single changed fuel
    match (← get).1 with
    | [] => return first
    | word :: rest =>
      if word = "-a".toList || word = "-and".toList then
        modify fun s => (rest, s.2)
        return .both first (← allOf changed fuel)
      else if word = "-o".toList || word = "-or".toList || word = [')'] then return first
      else return .both first (← allOf changed fuel)

def single (changed : Bytes → Except String Nat) : Nat → Reader Condition
  | 0 => return .always true
  | fuel + 1 => do
    match (← get).1 with
    | [] => return .always true
    | word :: rest =>
      modify fun s => (rest, s.2)
      let name := String.ofList word
      match name with
      | "!" | "-not" =>
        if (← get).1.isEmpty then throw s!"expected an expression after '{name}'"
        return .invert (← single changed fuel)
      | "(" =>
        if (← get).1.isEmpty then
          throw ("invalid expression; expected to find a ')' but didn't see one. " ++
            "Perhaps you need an extra predicate after '('")
        let inner ← anyOf changed fuel
        match (← get).1 with
        | [')'] :: rest =>
          modify fun s => (rest, s.2)
          return inner
        | _ =>
          throw "invalid expression; I was expecting to find a ')' somewhere but did not see one."
      | "-true" => return .always true
      | "-false" => return .always false
      | "-name" => return .named (plain (← operand name)) false
      | "-iname" => return .named (plain (lower (← operand name))) true
      | "-path" | "-wholename" => return .under (plain (← operand name))
      | "-type" =>
        let letters := (← operand name).filter (· ≠ ',')
        match letters.find? fun c => c ∉ "fdlcpbs".toList with
        | some c => throw s!"Unknown argument to -type: {String.ofList [c]}"
        | none => return .kind letters
      | "-empty" => return .empty
      | "-newer" => return .newer (← changed (← operand name))
      | "-size" => return sized (← operand name)
      | "-perm" => return .mode ((Number.natural? 8 (← operand name)).getD 0)
      | "-print" => acting; return .print '\n'
      | "-print0" => acting; return .print '\x00'
      | "-printf" => acting; return .format (← operand name)
      | "-delete" =>
        acting
        modify fun (words, range) => (words, { range with innerFirst := true })
        return .delete
      | "-depth" =>
        modify fun (words, range) => (words, { range with innerFirst := true })
        return .always true
      | "-prune" => return .prune
      | "-quit" => acting; return .quit
      | "-exec" => command name
      | "-maxdepth" | "-mindepth" =>
        let text ← operand name
        match Number.decimal? text with
        | some n =>
          modify fun (words, range) =>
            let range :=
              if name = "-maxdepth" then { range with most := n } else { range with least := n }
            (words, range)
          return .always true
        | none =>
          throw (s!"Expected a positive decimal integer argument to {name}, " ++
            s!"but got '{String.ofList text}'")
      | "-follow" | "-xdev" | "-mount" | "-noleaf" => return .always true
      | _ => throw s!"unknown predicate \x60{name}'"

end

structure Found where
  path : Bytes
  name : Bytes
  file : Nat
  depth : Nat

structure Course where
  pruned : Bool := false
  ended : Bool := false
  collected : List (List Bytes × Bytes) := []

def formattedFor (file : File) (found : Found) : Nat → Bytes → Bytes
  | 0, _ => []
  | _ + 1, [] => []
  | fuel + 1, '%' :: letter :: rest =>
    let text := match letter with
      | 'p' => found.path
      | 'f' => found.name
      | 's' => Number.text (sizeOf file)
      | 'd' => Number.text found.depth
      | 'm' => Nat.toDigits 8 file.mode
      | 'M' => modeText file
      | 'y' => [((modeText file).head?.map fun c => if c = '-' then 'f' else c).getD 'f']
      | 'h' =>
        let directory := (found.path.reverse.dropWhile (· ≠ '/')).drop 1
        if '/' ∈ found.path then directory.reverse else ['.']
      | '%' => ['%']
      | c => ['%', c]
    text ++ formattedFor file found fuel rest
  | fuel + 1, '\\' :: rest =>
    let (c, rest) := escape rest
    c :: formattedFor file found fuel rest
  | fuel + 1, c :: rest => c :: formattedFor file found fuel rest

def isEmptyFile (files : Files) (n : Nat) : Bool :=
  let file := files.get n
  if file.isDirectory then (files.entries n).isEmpty else file.isRegular && file.contents.isEmpty

/-- Whether a condition holds for a file. Its parts are asked only as far as they decide. -/
def holds (start : Start) (found : Found) : Condition → StateT Course Action Bool
  | .always answer => return answer
  | .named pattern caseless =>
    return pattern.accepts (if caseless then lower found.name else found.name)
  | .under pattern => return pattern.accepts found.path
  | .kind letters => do
    let file := (← getThe State).world.files.get found.file
    let c := ((modeText file).head?).getD '-'
    return (if c = '-' then 'f' else c) ∈ letters
  | .empty => return isEmptyFile (← getThe State).world.files found.file
  | .newer time => return time < ((← getThe State).world.files.get found.file).changed
  | .size compare count unit => do
    let file := (← getThe State).world.files.get found.file
    let size := (sizeOf file + unit - 1) / unit
    return match compare with
      | '+' => count < size
      | '-' => size < count
      | _ => size = count
  | .mode mode => return ((← getThe State).world.files.get found.file).mode = mode
  | .print stop => do
    (put "find" (found.path ++ [stop]) : Action Unit)
    return true
  | .format text => do
    let file := (← getThe State).world.files.get found.file
    (put "find" (formattedFor file found (text.length + 1) text) : Action Unit)
    return true
  | .delete => do
    (arrange "find" s!"cannot delete '{shown found.path}'" fun files place => do
      if !(files.entries found.file).isEmpty then .error .notEmpty
      let (directory, name) ← files.findParent place found.path
      return files.unlink directory name : Action Unit)
    return true
  | .prune => do
    modify fun c => { c with pruned := true }
    return true
  | .quit => do
    modify fun c => { c with ended := true }
    return true
  | .run words => do
    let words :=
      words.map fun word => replaceAll "\x7b\x7d".toList found.path (word.length + 1) word
    let name := words.head?.getD []
    match ← (locate name : Action _) with
    | .error trouble =>
      (warn s!"find: '{shown name}': {trouble.text}\n" : Action Unit)
      return false
    | .ok n => return Builtin.statusOf (← (start n words : Action _)) = 0
  | .collect words => do
    modify fun c => { c with collected := c.collected ++ [(words, found.path)] }
    return true
  | .invert condition => return !(← holds start found condition)
  | .both first second => do
    if ← holds start found first then holds start found second else return false
  | .either first second => do
    if ← holds start found first then return true else holds start found second

def visit (start : Start) (range : Range) (condition : Condition) :
    Nat → Found → StateT Course Action Unit
  | 0, _ => return
  | fuel + 1, found => do
    if (← get).ended then return
    let ask : StateT Course Action Unit := do
      if range.least ≤ found.depth && !(← get).ended then
        let answer ← holds start found condition
        if answer && !range.acts then (put "find" (found.path ++ ['\n']) : Action Unit)
    modify fun c => { c with pruned := false }
    if !range.innerFirst then ask
    let files := (← getThe State).world.files
    if found.depth < range.most && (range.innerFirst || !(← get).pruned) then
      for name in files.names found.file do
        match (files.entries found.file).lookup name with
        | some n =>
          visit start range condition fuel ⟨pathBelow found.path name, name, n, found.depth + 1⟩
        | none => pure ()
    if range.innerFirst then ask

end Find

open Find in
def find : Launcher := fun start arguments => do
  let isPath (word : Bytes) : Bool :=
    match word with
    | '-' :: _ :: _ => false
    | word => word ≠ ['('] && word ≠ ['!']
  let arguments := arguments.dropWhile ["-H".toList, "-L".toList, "-P".toList].contains
  let (paths, words) := arguments.span isPath
  let paths := if paths.isEmpty then [['.']] else paths
  let s ← get
  let changed (path : Bytes) : Except String Nat :=
    match s.world.files.find s.place path with
    | .ok n => .ok (s.world.files.get n).changed
    | .error trouble => .error s!"'{shown path}': {trouble.text}"
  match (anyOf changed (4 * words.length + 8)).run (words, {}) with
  | .error text => refuse "find" text
  | .ok (condition, rest, range) =>
    match rest with
    | _ :: _ => refuse "find" "you have too many ')'"
    | [] =>
      let search : StateT Course Action Unit := do
        for path in paths do
          let files := (← getThe State).world.files
          match files.find s.place path false with
          | .ok n =>
            let trimmed := (path.reverse.dropWhile (· = '/')).reverse
            let name := (trimmed.reverse.takeWhile (· ≠ '/')).reverse
            visit start range condition 1000 ⟨path, if name.isEmpty then path else name, n, 0⟩
          | .error trouble => (refuse "find" s!"'{shown path}': {trouble.text}" : Action Unit)
      let ((), course) ← search.run {}
      for words in (course.collected.map Prod.fst).eraseDups do
        let found := (course.collected.filter (·.1 = words)).map Prod.snd
        match ← locate (words.head?.getD []) with
        | .error trouble => refuse "find" s!"'{shown (words.head?.getD [])}': {trouble.text}"
        | .ok n =>
          if Builtin.statusOf (← start n (words ++ found)) ≠ 0 then finish 1

end Precedence.Shell.Tool

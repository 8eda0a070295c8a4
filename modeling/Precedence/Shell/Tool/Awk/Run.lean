import Precedence.Shell.Tool.Launcher
import Precedence.Shell.Tool.Awk.Reader
import Precedence.Shell.Tool.Awk.Text
/-!
# Running programs for records

Rules are run in their order for each record of the input, those for the start before the first
one and those for the finish behind the last one. What is printed waits until a command runs or the
program ends.
-/

namespace Precedence.Shell.Tool.Awk

/-- An element of a table: its key, whether a number has named it first, and its value. -/
structure Element where
  key : Bytes
  byNumber : Bool
  value : Value

inductive Slot where
  | unset
  | value (value : Value)
  /-- The elements, the latest first. -/
  | table (elements : List Element)

inductive Writer where
  | stream (n : Nat)
  /-- What a command will read when the program closes it. -/
  | command (text : List Bytes)

structure Course where
  functions : List (Bytes × Function)
  slots : Array Slot := #[]
  globals : List (Bytes × Nat) := []
  locals : List (Bytes × Nat) := []
  record : Bytes := []
  fields : Array Value := #[]
  operand : Nat := 1
  opened : Bool := false
  waiting : Option Bytes := none
  /-- What is left of the files and the output of commands that `getline` reads. -/
  readers : List (Bytes × Bytes) := []
  writers : List (Bytes × Writer) := []
  output : Array Bytes := #[]
  active : List Nat := []
  status : Nat := 0
  seed : Nat := 0
  random : Nat := 1

inductive Stop where
  | next
  | nextFile
  | exit
  | leave
  | again
  | giveBack (value : Value)
  /-- A mistake that is told with the place in the input. -/
  | mistake (text : String)
  | refused (text : String)

abbrev Running := ExceptT Stop (StateT Course Action)

/-- Runs a part, and tells why it has gone on elsewhere, if it has. -/
def attempt (run : Running Unit) : Running (Option Stop) :=
  ExceptT.mk do
    match ← run.run with
    | .ok () => return .ok none
    | .error stop => return .ok (some stop)

def act {α : Type} (action : Action α) : Running α := liftM action

def ofExcept {α : Type} : Except String α → Running α
  | .ok value => return value
  | .error text => throw (.mistake text)

/-! ## Names -/

def Course.slotOf? (c : Course) (name : Bytes) : Option Nat :=
  c.locals.lookup name <|> c.globals.lookup name

def slotOf (name : Bytes) : Running Nat := do
  let c ← get
  match c.slotOf? name with
  | some n => return n
  | none =>
    let n := c.slots.size
    set { c with slots := c.slots.push .unset, globals := (name, n) :: c.globals }
    return n

def Course.value (c : Course) (name : String) : Value :=
  match (c.globals.lookup name.toList).bind (c.slots[·]?) with
  | some (.value value) => value
  | _ => .unset

/-- The text of one of the names that programs are told by. -/
def Course.text (c : Course) (name : String) : Bytes := (c.value name).toText "%.6g".toList

def Course.format (c : Course) : Bytes := c.text "CONVFMT"

def textOf (value : Value) : Running Bytes := return value.toText (← get).format

def isParagraph (c : Course) : Bool := (c.text "RS").isEmpty

def setRecord (text : Bytes) : Running Unit := do
  let c ← get
  let fields ← ofExcept (fieldsOf (c.text "FS") (isParagraph c) text)
  set { c with record := text, fields := (fields.map Value.input).toArray }

/-- Makes the fields the record, with separators between them. -/
def setFields (fields : Array Value) : Running Unit := do
  let c ← get
  let texts := fields.toList.map (·.toText c.format)
  set { c with fields, record := (c.text "OFS").intercalate texts }

def assignName (name : Bytes) (value : Value) : Running Unit := do
  let c ← get
  if name = "NF".toList && (c.locals.lookup name).isNone then
    let n := (wholePart value.toNumber).toNat
    let kept := c.fields.extract 0 n
    setFields (kept ++ Array.replicate (n - kept.size) (.text []))
  else
    match c.locals.lookup name with
    | some n =>
      match c.slots[n]? with
      | some (.table _) => throw (.mistake s!"assignment to array {String.ofList name}")
      | some .unset =>
        -- The slot may be that of another name, which keeps its own value.
        set { c with
          locals := (name, c.slots.size) :: c.locals.filter (·.1 ≠ name)
          slots := c.slots.push (.value value) }
      | _ => set { c with slots := c.slots.set! n (.value value) }
    | none =>
      let n ← slotOf name
      modify fun c => { c with slots := c.slots.set! n (.value value) }

def readName (name : Bytes) : Running Value := do
  let c ← get
  if name = "NF".toList then return .ofNat c.fields.size
  match (c.slotOf? name).bind (c.slots[·]?) with
  | some (.value value) => return value
  | some (.table _) => throw (.refused s!"line 1: illegal reference to array {String.ofList name}")
  | _ => return .unset

def elements (name : Bytes) : Running (List Element) := do
  let n ← slotOf name
  match (← get).slots[n]? with
  | some (.table found) => return found
  | some (.value _) =>
    throw (.refused s!"line 1: illegal reference to variable {String.ofList name}")
  | _ => return []

def setElements (name : Bytes) (found : List Element) : Running Unit := do
  let n ← slotOf name
  modify fun c => { c with slots := c.slots.set! n (.table found) }

def setElement (name : Bytes) (key : Bytes × Bool) (value : Value) : Running Unit := do
  let found ← elements name
  if found.any (·.key = key.1) then
    setElements name (found.map fun element =>
      if element.key = key.1 then { element with value } else element)
  else setElements name (⟨key.1, key.2, value⟩ :: found)

def readElement (name : Bytes) (key : Bytes × Bool) : Running Value := do
  match (← elements name).find? (·.key = key.1) with
  | some element => return element.value
  | none =>
    setElement name key .unset
    return .unset

def rank (key : Bytes) : Nat :=
  (key.foldl (fun sum c => (sum ^^^ c.toNat) * 16777619 % Nat.pow 2 32) 2166136261) % 64

/-- The keys in the order of a loop: by their ranks, and the latest first. Numbers count as later
than texts, and among themselves by their remainders. -/
def loopKeys (found : List Element) : List Bytes :=
  let (numbers, texts) := found.partition Element.byNumber
  let remainder (element : Element) : Nat := ((Number.decimal? element.key).getD 0) % 64
  let numbers := numbers.mergeSort fun a b => decide (remainder a ≤ remainder b)
  let keys := numbers.reverse.map Element.key ++ texts.map Element.key
  keys.mergeSort fun a b => decide (rank a ≤ rank b)

/-! ## Input and output -/

def flush : Running Unit := do
  let text := (← get).output.toList.flatten
  modify fun c => { c with output := #[] }
  if !text.isEmpty then
    act do
      match (← getThe State).write 1 text with
      | (_, s) => set s

/-- Runs a command of a shell with descriptors connected to streams. -/
def command (start : Start) (connections : List (Nat × Nat)) (text : Bytes) :
    Action ExitStatus := do
  match ← locate "/bin/sh".toList with
  | .error _ => return .exited 127
  | .ok n =>
    let before := (← get).descriptors
    modify fun s => connections.foldl (fun s (descriptor, stream) => s.connect descriptor stream) s
    let status ← start n ["sh".toList, "-c".toList, text]
    modify fun s => { s with descriptors := before }
    return status

def finishWriter (start : Start) (name : Bytes) : Writer → Action ExitStatus
  | .stream _ => return .exited 0
  | .command texts => do
    let (into, out, s) := (← get).addChannel
    set s
    let s := (s.connect 0 into)
    let (_, after) := s.write 0 texts.reverse.flatten
    set { after with descriptors := (← get).descriptors }
    command start [(0, out)] name

def emit (target : Target Bytes) (text : Bytes) : Running Unit := do
  match target with
  | .output => modify fun c => { c with output := c.output.push text }
  | .file appending path =>
    if path = "/dev/stdout".toList || path = ['-'] then
      modify fun c => { c with output := c.output.push text }
    else if path = "/dev/stderr".toList then act (modify fun s => (s.write 2 text).2)
    else
      match (← get).writers.lookup path with
      | some (.stream n) => act (writeTo n text)
      | _ =>
        match ← act (openFile (if appending then .append else .write) path) with
        | .ok n =>
          modify fun c => { c with writers := c.writers ++ [(path, .stream n)] }
          act (writeTo n text)
        | .error trouble =>
          throw (.refused s!"cannot open \"{String.ofList path}\" for output ({trouble.text})")
  | .command name =>
    match (← get).writers.lookup name with
    | some (.command texts) =>
      modify fun c => { c with
        writers := c.writers.map fun (other, writer) =>
          (other, if other = name then .command (text :: texts) else writer) }
    | _ =>
      flush
      modify fun c => { c with writers := c.writers ++ [(name, .command [text])] }

def count (name : String) : Running Unit := do
  assignName name.toList (.number ((← get).value name |>.toNumber |> (· + 1)))

/-- Opens the next file that an argument names, and tells whether there is one. Arguments may also
give values to names. -/
def openNext : Nat → Running Bool
  | 0 => return false
  | fuel + 1 => do
    let c ← get
    let limit := (wholePart (c.value "ARGC").toNumber).toNat
    let read (path : Bytes) : Running Bool := do
      match ← act (contents path) with
      | .ok text =>
        modify fun c => { c with waiting := some text, opened := true }
        assignName "FNR".toList (.number 0)
        return true
      | .error trouble => throw (.refused s!"cannot open \"{String.ofList path}\" ({trouble.text})")
    if limit ≤ c.operand then
      if c.opened then return false else read ['-']
    else
      set { c with operand := c.operand + 1 }
      let key := Number.text c.operand
      let operand ← match (← elements "ARGV".toList).find? (·.key = key) with
        | some element => textOf element.value
        | none => pure []
      let (name, value) := operand.span (· ≠ '=')
      let isName := match name with
        | c :: rest => (c.isAlpha || c = '_') && rest.all fun c => c.isAlphanum || c = '_'
        | [] => false
      if operand.isEmpty then openNext fuel
      else if isName && !value.isEmpty then
        assignName name (.input (undone (value.length + 1) (value.drop 1)))
        openNext fuel
      else
        assignName "FILENAME".toList (.text operand)
        read operand

def nextRecord : Nat → Running (Option Bytes)
  | 0 => return none
  | fuel + 1 => do
    match (← get).waiting with
    | some text =>
      match ← ofExcept (firstRecord? ((← get).text "RS") text) with
      | some (record, rest) =>
        modify fun c => { c with waiting := some rest }
        count "NR"
        count "FNR"
        return some record
      | none =>
        modify fun c => { c with waiting := none }
        nextRecord fuel
    | none =>
      let limit := (wholePart ((← get).value "ARGC").toNumber).toNat
      if ← openNext (limit + 1) then nextRecord fuel else return none

/-- The next record of what a name stands for; its text is fetched when it is not known yet. -/
def nextFrom (name : Bytes) (fetch : Action (Option Bytes)) : Running (Option (Option Bytes)) := do
  let text ← match (← get).readers.lookup name with
    | some text => pure (some text)
    | none => act fetch
  match text with
  | none => return none
  | some text =>
    let keep (rest : Bytes) : Running Unit :=
      modify fun c => { c with readers := (name, rest) :: c.readers.filter (·.1 ≠ name) }
    match ← ofExcept (firstRecord? ((← get).text "RS") text) with
    | some (record, rest) =>
      keep rest
      return some (some record)
    | none =>
      keep []
      return some none

def outputOf (start : Start) (text : Bytes) : Action (Option Bytes) := do
  let (into, out, s) := (← get).addChannel
  set s
  let _ ← command start [(1, into)] text
  let s ← get
  match (s.connect 0 out).read 0 none with
  | (.ok found, after) =>
    set { after with descriptors := s.descriptors }
    return some found
  | (.error _, _) => return none

/-! ## Values -/

def truncated (n : Float) : Float := if n < 0 then n.ceil else n.floor

/-- The remainder of a division whose quotient is cut off. -/
def remainder (a b : Float) : Float :=
  let (m, n) := (wholePart a, wholePart b)
  if Float.ofInt m == a && Float.ofInt n == b && n ≠ 0 then
    let rest := Float.ofNat (m.natAbs % n.natAbs)
    if m < 0 then -rest else rest
  else a - b * truncated (a / b)

def applied (format : Bytes) (op : Operator) (a b : Value) : Value :=
  let (m, n) := (a.toNumber, b.toNumber)
  match op with
  | .add => .number (m + n)
  | .subtract => .number (m - n)
  | .multiply => .number (m * n)
  | .divide => .number (m / n)
  | .remainder => .number (remainder m n)
  | .power => .number (m ^ n)
  | .less => .ofBool (a.compare format b = .lt)
  | .atMost => .ofBool (a.compare format b ≠ .gt)
  | .equal => .ofBool (a.compare format b = .eq)
  | .unequal => .ofBool (a.compare format b ≠ .eq)
  | .more => .ofBool (a.compare format b = .gt)
  | .atLeast => .ofBool (a.compare format b ≠ .lt)
  | .join => .text (a.toText format ++ b.toText format)

/-- The part of a text from a place on, of a given length. -/
def part (text : Bytes) (start : Float) (size : Option Float) : Bytes :=
  let first := wholePart start.round
  let last : Int := match size with
    | some size => min (wholePart (start + size).round) (text.length + 1)
    | none => text.length + 1
  let from_ := max first 1
  (text.drop (from_ - 1).toNat).take (last - from_).toNat

/-- The place where a text stands in another one, counted from one. -/
def placeOf (part : Bytes) : Bytes → Nat → Nat
  | [], n => if part.isEmpty then n else 0
  | c :: rest, n => if part.isPrefixOf (c :: rest) then n else placeOf part rest (n + 1)

/-- The key of an element: numbers that are integers name it as such. -/
def keyOf (c : Course) : List Value → Bytes × Bool
  | [.number n] => (plainText c.format n, Float.ofInt (wholePart n) == n)
  | values => ((c.text "SUBSEP").intercalate (values.map (·.toText c.format)), false)

def matchesAt (regex : Regex) (text : Bytes) : Option Regex.Match := regex.first? text.toArray 0

mutual

def eval (start : Start) : Nat → Expr → Running Value
  | 0, _ => throw (.mistake "expression too deep")
  | fuel + 1, expr => do
    match expr with
    | .number value => return .number value
    | .text value => return .text value
    | .regex source =>
      let regex ← ofExcept (pattern? source)
      return .ofBool (matchesAt regex (← get).record).isSome
    | .named name => readName name
    | .element array index =>
      let key := keyOf (← get) (← evalAll start fuel index)
      readElement array key
    | .field place =>
      let n := wholePart (← eval start fuel place).toNumber
      if n < 0 then throw (.mistake s!"negative field index ${n}")
      let c ← get
      match n.toNat with
      | 0 => return .input c.record
      | n + 1 => return (c.fields[n]?).getD .unset
    | .assign place op body =>
      let value ← match op with
        | none => eval start fuel body
        | some op => do
          let value ← eval start fuel body
          pure (applied (← get).format op (← eval start fuel place) value)
      assign start fuel place value
      return value
    | .step place change before =>
      let old := (← eval start fuel place).toNumber
      assign start fuel place (.number (old + change))
      return .number (if before then old + change else old)
    | .negate body => return .number (-(← eval start fuel body).toNumber)
    | .plus body => return .number (← eval start fuel body).toNumber
    | .not body => return .ofBool (!(← eval start fuel body).holds)
    | .binary op first second =>
      let a ← eval start fuel first
      let b ← eval start fuel second
      return applied (← get).format op a b
    | .both first second =>
      if (← eval start fuel first).holds then return .ofBool (← eval start fuel second).holds
      else return .ofBool false
    | .either first second =>
      if (← eval start fuel first).holds then return .ofBool true
      else return .ofBool (← eval start fuel second).holds
    | .choice condition first second =>
      if (← eval start fuel condition).holds then eval start fuel first else eval start fuel second
    | .accepts subject pattern =>
      let text ← textOf (← eval start fuel subject)
      let regex ← regexOf start fuel pattern
      return .ofBool (matchesAt regex text).isSome
    | .contains index array =>
      let key := keyOf (← get) (← evalAll start fuel index)
      return .ofBool ((← elements array).any (·.key = key.1))
    | .call name arguments => call start fuel name arguments
    | .standard name arguments => standard start fuel name arguments
    | .getline source place =>
      let result ← match source with
        | .records => do
          match ← nextRecord 1000000 with
          | some record => pure (some (some record))
          | none => pure (some none)
        | .file path => do
          let path ← textOf (← eval start fuel path)
          nextFrom path do
            match ← contents path with
            | .ok text => return some text
            | .error _ => return none
        | .command text => do
          let text ← textOf (← eval start fuel text)
          if ((← get).readers.lookup text).isNone then flush
          let result ← nextFrom text (outputOf start text)
          match result with
          | some (some _) => count "NR"
          | _ => pure ()
          pure result
      match result with
      | none => return .number (-1)
      | some none => return .number 0
      | some (some record) =>
        match place with
        | some place => assign start fuel place (.input record)
        | none => setRecord record
        return .number 1

def evalAll (start : Start) : Nat → List Expr → Running (List Value)
  | 0, _ | _, [] => return []
  | fuel + 1, first :: rest => do
    let value ← eval start fuel first
    return value :: (← evalAll start fuel rest)

def regexOf (start : Start) : Nat → Expr → Running Regex
  | 0, _ => throw (.mistake "expression too deep")
  | fuel + 1, expr => do
    match expr with
    | .regex source => ofExcept (pattern? source)
    | expr =>
      let source ← textOf (← eval start fuel expr)
      ofExcept (pattern? source)

def assign (start : Start) : Nat → Expr → Value → Running Unit
  | 0, _, _ => throw (.mistake "expression too deep")
  | fuel + 1, place, value => do
    match place with
    | .named name => assignName name value
    | .element array index =>
      let key := keyOf (← get) (← evalAll start fuel index)
      setElement array key value
    | .field place =>
      let n := wholePart (← eval start fuel place).toNumber
      if n < 0 then throw (.mistake s!"negative field index ${n}")
      match n.toNat with
      | 0 => setRecord (← textOf value)
      | n + 1 =>
        let fields := (← get).fields
        let fields := fields ++ Array.replicate (n + 1 - fields.size) (.text [])
        setFields (fields.set! n value)
    | _ => throw (.mistake "assignment to a value")

/-- Calls a function. Tables are handed over as such, and other values are copied. -/
def call (start : Start) : Nat → Bytes → List Expr → Running Value
  | 0, _, _ => throw (.mistake "function calls too deep")
  | fuel + 1, name, arguments => do
    match (← get).functions.lookup name with
    | none => throw (.mistake s!"function {String.ofList name} never defined")
    | some function =>
      if function.parameters.length < arguments.length then
        throw (.refused s!"line 1: too many arguments in call to {String.ofList name}")
      let slots ← handOver start fuel arguments
      let missing := function.parameters.length - slots.length
      let c ← get
      let slots := slots ++ (List.range missing).map (c.slots.size + ·)
      set { c with
        slots := c.slots ++ Array.replicate missing Slot.unset
        locals := function.parameters.zip slots }
      let stop ← attempt (exec start fuel function.body)
      modify fun after => { after with locals := c.locals }
      match stop with
      | none => return .unset
      | some (.giveBack value) => return value
      | some stop => throw stop

def handOver (start : Start) : Nat → List Expr → Running (List Nat)
  | 0, _ | _, [] => return []
  | fuel + 1, first :: rest => do
    let copy : Running Nat := do
      let value ← eval start fuel first
      let c ← get
      set { c with slots := c.slots.push (.value value) }
      return c.slots.size
    let slot ← match first with
      | .named name => do
        let n ← slotOf name
        match (← get).slots[n]? with
        | some (.value _) => copy
        | _ => if name = "NF".toList then copy else pure n
      | _ => copy
    return slot :: (← handOver start fuel rest)

def standard (start : Start) : Nat → String → List Expr → Running Value
  | 0, _, _ => throw (.mistake "expression too deep")
  | fuel + 1, name, arguments => do
    let number (f : Float → Float) : Running Value := do
      match arguments with
      | [body] => return .number (f (← eval start fuel body).toNumber)
      | _ => throw (.refused s!"line 1: wrong number of arguments in call to {name}")
    let changed (f : Char → Char) : Running Value := do
      match arguments with
      | [body] => return .text ((← textOf (← eval start fuel body)).map f)
      | _ => throw (.refused s!"line 1: wrong number of arguments in call to {name}")
    match name, arguments with
    | "length", [] => return .ofNat (← get).record.length
    | "length", [body] =>
      let c ← get
      let table? : Option (List Element) := match body with
        | .named name =>
          match (c.slotOf? name).bind (c.slots[·]?) with
          | some (.table found) => some found
          | _ => none
        | _ => none
      match table? with
      | some found => return .ofNat found.length
      | none => return .ofNat (← textOf (← eval start fuel body)).length
    | "substr", [body, first] =>
      let text ← textOf (← eval start fuel body)
      return .text (part text (← eval start fuel first).toNumber none)
    | "substr", [body, first, size] =>
      let text ← textOf (← eval start fuel body)
      let first := (← eval start fuel first).toNumber
      return .text (part text first (some (← eval start fuel size).toNumber))
    | "index", [body, inner] =>
      let text ← textOf (← eval start fuel body)
      return .ofNat (placeOf (← textOf (← eval start fuel inner)) text 1)
    | "split", body :: .named array :: separator =>
      let text ← textOf (← eval start fuel body)
      let parts ← match separator with
        | .regex source :: _ => do
          let regex ← ofExcept (pattern? source)
          pure (if text.isEmpty then [] else splitBy regex text.toArray (text.length + 1) 0 0)
        | separator :: _ => do
          let separator ← textOf (← eval start fuel separator)
          ofExcept (fieldsOf separator false text)
        | [] => do ofExcept (fieldsOf ((← get).text "FS") (isParagraph (← get)) text)
      let found : List Element := parts.zipIdx.map fun (part, n) =>
        ⟨Number.text (n + 1), true, .input part⟩
      setElements array found.reverse
      return .ofNat parts.length
    | "match", [body, pattern] =>
      let text ← textOf (← eval start fuel body)
      let regex ← regexOf start fuel pattern
      match matchesAt regex text with
      | some found =>
        assignName "RSTART".toList (.ofNat (found.start + 1))
        assignName "RLENGTH".toList (.ofNat (found.stop - found.start))
        return .ofNat (found.start + 1)
      | none =>
        assignName "RSTART".toList (.number 0)
        assignName "RLENGTH".toList (.number (-1))
        return .number 0
    | "sub", pattern :: filling :: place | "gsub", pattern :: filling :: place =>
      let regex ← regexOf start fuel pattern
      let filling ← textOf (← eval start fuel filling)
      let place := place.head?.getD (.field (.number 0))
      let subject := (← textOf (← eval start fuel place)).toArray
      let (text, n) :=
        substituted regex filling (name = "gsub") subject (2 * subject.size + 2) 0 none
      if n ≠ 0 then assign start fuel place (.text text)
      return .ofNat n
    | "sprintf", format :: rest =>
      let format ← textOf (← eval start fuel format)
      .text <$> formattedText "sprintf" format (← evalAll start fuel rest)
    | "atan2", [y, x] =>
      let y := (← eval start fuel y).toNumber
      return .number (Float.atan2 y (← eval start fuel x).toNumber)
    | "sin", _ => number Float.sin
    | "cos", _ => number Float.cos
    | "exp", _ => number Float.exp
    | "log", _ => number Float.log
    | "sqrt", _ => number Float.sqrt
    | "int", _ => number truncated
    | "rand", _ =>
      let random := ((← get).random * 1103515245 + 12345) % Nat.pow 2 31
      modify fun c => { c with random }
      return .number (Float.ofNat random / Float.ofNat (Nat.pow 2 31))
    | "srand", _ =>
      let old := (← get).seed
      let seed ← match arguments with
        | body :: _ => do pure (wholePart (← eval start fuel body).toNumber).natAbs
        | [] => pure 1
      modify fun c => { c with seed, random := seed }
      return .ofNat old
    | "tolower", _ => changed Char.toLower
    | "toupper", _ => changed Char.toUpper
    | "system", [body] =>
      let text ← textOf (← eval start fuel body)
      flush
      match ← act (command start [] text) with
      | .exited code => return .ofNat code.toNat
      | .signalled signal => return .ofNat (256 + signal)
    | "close", body :: _ =>
      let name ← textOf (← eval start fuel body)
      let c ← get
      match c.writers.lookup name, c.readers.lookup name with
      | some writer, _ =>
        flush
        modify fun c => { c with writers := c.writers.filter (·.1 ≠ name) }
        match ← act (finishWriter start name writer) with
        | .exited code => return .ofNat code.toNat
        | .signalled signal => return .ofNat (256 + signal)
      | none, some _ =>
        modify fun c => { c with readers := c.readers.filter (·.1 ≠ name) }
        return .number 0
      | none, none => return .number (-1)
    | "fflush", _ =>
      flush
      return .number 0
    | _, _ => throw (.refused s!"line 1: wrong number of arguments in call to {name}")

def exec (start : Start) : Nat → Statement → Running Unit
  | 0, _ => throw (.mistake "statement too deep")
  | fuel + 1, statement => do
    match statement with
    | .nothing => return
    | .value body =>
      let _ ← eval start fuel body
    | .print arguments target =>
      let values ← evalAll start fuel arguments
      let c ← get
      let text := if arguments.isEmpty then c.record
        else (c.text "OFS").intercalate (values.map (·.toText (c.text "OFMT")))
      emit (← targetOf start fuel target) (text ++ c.text "ORS")
    | .printf arguments target =>
      match ← evalAll start fuel arguments with
      | format :: values =>
        let text ← formattedText "printf" (← textOf format) values
        emit (← targetOf start fuel target) text
      | [] => return
    | .delete array none => setElements array []
    | .delete array (some index) =>
      let key := keyOf (← get) (← evalAll start fuel index)
      setElements array ((← elements array).filter (·.key ≠ key.1))
    | .chain first second =>
      exec start fuel first
      exec start fuel second
    | .branch condition first second =>
      if (← eval start fuel condition).holds then exec start fuel first else exec start fuel second
    | .loop afterwards condition step body => turns start fuel afterwards condition step body
    | .forKeys name array body => forKeys start fuel name body (loopKeys (← elements array))
    | .next => throw .next
    | .nextFile => throw .nextFile
    | .exit status =>
      match status with
      | some status =>
        let n := wholePart (← eval start fuel status).toNumber
        modify fun c => { c with status := (n % 256).toNat }
      | none => pure ()
      throw .exit
    | .giveBack value =>
      match value with
      | some value => throw (.giveBack (← eval start fuel value))
      | none => throw (.giveBack .unset)
    | .leave => throw .leave
    | .again => throw .again

def turns (start : Start) : Nat → Bool → Option Expr → Statement → Statement → Running Unit
  | 0, _, _, _, _ => throw (.mistake "loop without an end")
  | fuel + 1, afterwards, condition, step, body => do
    let goOn ← match afterwards, condition with
      | false, some condition => do pure (← eval start fuel condition).holds
      | _, _ => pure true
    if goOn then
      match ← attempt (exec start fuel body) with
      | none | some .again =>
        exec start fuel step
        turns start fuel false condition step body
      | some .leave => return
      | some stop => throw stop

def forKeys (start : Start) : Nat → Bytes → Statement → List Bytes → Running Unit
  | 0, _, _, _ | _, _, _, [] => return
  | fuel + 1, name, body, key :: rest => do
    assignName name (.input key)
    match ← attempt (exec start fuel body) with
    | none | some .again => forKeys start fuel name body rest
    | some .leave => return
    | some stop => throw stop

def targetOf (start : Start) : Nat → Target Expr → Running (Target Bytes)
  | 0, _ => throw (.mistake "expression too deep")
  | _, .output => return .output
  | fuel + 1, .file appending path => return .file appending (← textOf (← eval start fuel path))
  | fuel + 1, .command text => return .command (← textOf (← eval start fuel text))

def formattedText (name : String) (format : Bytes) (values : List Value) : Running Bytes := do
  match formatText (← get).format (format.length + 1) format values with
  | .ok text => return text
  | .error text => throw (.mistake s!"{text} passed to {name}(\"{String.ofList format}\")")

end

/-! ## Rules -/

/-- The steps that a program may take one inside the other. -/
def fuel : Nat := 1000000

def isSelected (start : Start) (place : Nat) : Selection → Running Bool
  | .start | .finish => return false
  | .every => return true
  | .when condition => return (← eval start fuel condition).holds
  | .range first last => do
    let began ← if place ∈ (← get).active then pure true
      else do pure (← eval start fuel first).holds
    if !began then return false
    let ended := (← eval start fuel last).holds
    modify fun c =>
      let others := c.active.filter (· ≠ place)
      { c with active := if ended then others else place :: others }
    return true

def perform (start : Start) (rule : Rule) : Running Unit :=
  match rule.action with
  | some action => exec start fuel action
  | none => exec start fuel (.print [] .output)

def forRecords (start : Start) (rules : List (Rule × Nat)) : Nat → Running Unit
  | 0 => return
  | n + 1 => do
    match ← nextRecord 1000000 with
    | none => return
    | some record =>
      setRecord record
      let stop ← attempt do
        for (rule, place) in rules do
          if ← isSelected start place rule.selection then perform start rule
      match stop with
      | none | some .next => forRecords start rules n
      | some .nextFile =>
        modify fun c => { c with waiting := none }
        forRecords start rules n
      | some stop => throw stop

def runProgram (start : Start) (program : Program) : Running Unit := do
  let rules := program.rules.zipIdx
  let of (isOf : Selection → Bool) : List Rule :=
    program.rules.filter fun rule => isOf rule.selection
  let starting := of fun selection => match selection with
    | .start => true
    | _ => false
  let finishing := of fun selection => match selection with
    | .finish => true
    | _ => false
  let stop ← attempt do
    for rule in starting do perform start rule
    if starting.length < rules.length then forRecords start rules fuel
  match stop with
  | none | some .exit | some .next =>
    let stop ← attempt do
      for rule in finishing do perform start rule
    match stop with
    | some (.mistake text) => throw (.mistake text)
    | some (.refused text) => throw (.refused text)
    | _ => return
  | some stop => throw stop

def initial : List (String × Value) :=
  [("FS", .text [' ']), ("OFS", .text [' ']), ("ORS", .text ['\n']), ("RS", .text ['\n']),
    ("NR", .number 0), ("FNR", .number 0), ("FILENAME", .text []), ("SUBSEP", .text ['\x1C']),
    ("RSTART", .number 0), ("RLENGTH", .number (-1)), ("CONVFMT", .text "%.6g".toList),
    ("OFMT", .text "%.6g".toList)]

end Awk

open Awk in
def awk : Launcher := fun start arguments => do
  let allowed := letters "" "Fvf"
  withLeading "awk" allowed 2 arguments fun options operands => do
    let mut texts : Array Bytes := #[]
    for (letter, path) in options do
      if letter = 'f' then
        match ← contents path with
        | .ok text => texts := texts.push text
        | .error trouble => refuse "awk" s!"cannot open \"{String.ofList path}\" ({trouble.text})" 2
    if (← get).status ≠ 0 then return
    let (text, operands) : Option Bytes × List Bytes := match texts.toList, operands with
      | [], text :: rest => (some text, rest)
      | [], [] => (none, [])
      | texts, operands => (some (['\n'].intercalate texts), operands)
    match text with
    | none => warn "Usage: mawk [Options] [Program] [file ...]\n"
    | some text =>
      match Program.parse text with
      | .error text => refuse "awk" text 2
      | .ok program =>
        let environment := (← get).environment
        let prepare : Running Unit := do
          for (name, value) in initial do assignName name.toList value
          for (name, value) in environment do
            setElement "ENVIRON".toList (name, false) (.input value)
          assignName "ARGC".toList (.ofNat (operands.length + 1))
          for (operand, n) in ("awk".toList :: operands).zipIdx do
            setElement "ARGV".toList (Number.text n, true) (.input operand)
          for (letter, text) in options do
            if letter = 'F' then assignName "FS".toList (.text (undone (text.length + 1) text))
            if letter = 'v' then
              let (name, value) := Builtin.binding text
              let value := value.getD []
              assignName name (.input (undone (value.length + 1) value))
        let run : Running Unit := do
          prepare
          runProgram start program
        let (stop, c) ← (run.run).run { functions := program.functions }
        let finishing : Running Unit := do
          for (name, writer) in c.writers do
            let _ ← act (finishWriter start name writer)
          flush
        let (_, _) ← (finishing.run).run c
        match stop with
        | .error (.mistake text) =>
          let shown (name : String) : String := String.ofList (c.text name)
          let (file, own, all) := (shown "FILENAME", shown "FNR", shown "NR")
          warn s!"awk: run time error: {text}\n\tFILENAME=\"{file}\" FNR={own} NR={all}\n"
          finish 2
        | .error (.refused text) => refuse "awk" text 2
        | _ => finish c.status

end Precedence.Shell.Tool

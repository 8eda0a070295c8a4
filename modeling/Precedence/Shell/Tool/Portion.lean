import Precedence.Shell.Tool.Place

namespace Precedence.Shell.Tool

def store (tool : String) (access : Access) (path text : Bytes) (what : String) : Action Unit := do
  match ← openFile access path with
  | .ok stream =>
    let s ← get
    let (trouble, after) := (s.connect 9 stream).write 9 text
    set { after with descriptors := s.descriptors }
    match trouble with
    | some trouble => refuse tool s!"error writing '{shown path}': {trouble.text}"
    | none => pure ()
  | .error trouble => refuse tool s!"{what}: {trouble.text}"

def dd : Tool := fun arguments => do
  let settings := arguments.map Builtin.binding
  let text? (name : String) : Option Bytes := (settings.lookup name.toList).join
  let number (name : String) (default : Nat) : Nat := ((text? name).bind scaled?).getD default
  let known :=
    ["if", "of", "bs", "ibs", "obs", "count", "skip", "seek", "conv", "status", "iflag", "oflag"]
  match settings.find? fun (name, text) => String.ofList name ∉ known || text.isNone with
  | some (name, text) =>
    let operand := String.ofList name ++ match text with
      | some text => "=" ++ String.ofList text
      | none => ""
    misuse "dd" s!"unrecognized operand '{operand}'"
  | none =>
    let size := number "bs" (number "ibs" 512)
    let asked := (text? "count").bind scaled?
    let opened : Except (Bytes × Trouble) (Option Nat) ← match text? "if" with
      | none => pure (.ok none)
      | some path => do
        match ← openFile .read path with
        | .ok stream => pure (.ok (some stream))
        | .error trouble => pure (.error (path, trouble))
    match opened with
    | .error (path, trouble) => refuse "dd" s!"failed to open '{shown path}': {trouble.text}"
    | .ok stream =>
      let s ← get
      let source := (stream.map fun n => s.connect 0 n).getD s
      let skipped := number "skip" 0 * size
      let (found, after) := source.read 0 (asked.map fun count => skipped + count * size)
      set { after with descriptors := s.descriptors }
      match found with
      | .error trouble => refuse "dd" s!"error reading 'standard input': {trouble.text}"
      | .ok found =>
        let found := found.drop skipped
        let conversions := ((text? "conv").getD []).splitOn ','
        let converted := if conversions.contains "ucase".toList then found.map Char.toUpper
          else if conversions.contains "lcase".toList then found.map Char.toLower
          else found
        match text? "of" with
        | none => put "dd" converted
        | some path =>
          let s ← get
          let old := match s.world.files.find s.place path with
            | .ok n => (s.world.files.get n).contents.toList
            | .error _ => []
          let front := old.take (number "seek" 0 * size)
          let front := front ++ List.replicate (number "seek" 0 * size - front.length) '\x00'
          let back :=
            if conversions.contains "notrunc".toList then old.drop (front.length + converted.length)
            else []
          store "dd" .write path (front ++ converted ++ back) s!"failed to open '{shown path}'"
        if text? "status" ≠ some "none".toList then
          let unfinished := if found.length % size = 0 then 0 else 1
          let blocks := s!"{found.length / size}+{unfinished} records"
          let bytes := if found.length = 1 then "1 byte" else s!"{found.length} bytes"
          let summary := if text? "status" = some "noxfer".toList then ""
            else bytes ++ " copied, 0.0001 s, 1.0 MB/s\n"
          warn s!"{blocks} in\n{blocks} out\n{summary}"

def pieceName (digits : Bool) (width n : Nat) : Bytes :=
  ((List.range width).reverse.map fun k =>
    if digits then Char.ofNat ('0'.toNat + n / Nat.pow 10 k % 10)
    else Char.ofNat ('a'.toNat + n / Nat.pow 26 k % 26))

def split : Tool := fun arguments =>
  withChoice "split" (letters "d" "lba") true 1 arguments fun options paths => do
    let front := (paths[1]?).getD ['x']
    match ← contents (paths.headD ['-']) with
    | .error trouble =>
      refuse "split" s!"cannot open '{shown (paths.headD [])}' for reading: {trouble.text}"
    | .ok text =>
      let number (letter : Char) : Option Nat := (last? letter options).bind scaled?
      let rec cut {α : Type} (size : Nat) : Nat → List α → List (List α)
        | 0, _ => []
        | _, [] => []
        | fuel + 1, xs => xs.take size :: cut size fuel (xs.drop size)
      let pieces := match number 'b' with
        | some size => cut size text.length text
        | none =>
          let rows := fullLines text
          (cut ((number 'l' <|> number '#').getD 1000) rows.length rows).map List.flatten
      for (piece, n) in pieces.zipIdx do
        let path := front ++ pieceName (has 'd' options) ((number 'a').getD 2) n
        store "split" .write path piece s!"{shown path}"

def truncate : Tool := fun arguments =>
  let allowed := letters "co" "sr" ++ settings [('s', "size")]
  withChoice "truncate" allowed false 1 arguments fun options paths => do
    match last? 's' options with
    | none => misuse "truncate" "you must specify either '--size' or '--reference'"
    | some size =>
      let (sign, digits) := match size with
        | '+' :: rest => ('+', rest)
        | '-' :: rest => ('-', rest)
        | rest => ('=', rest)
      match scaled? digits with
      | none => refuse "truncate" s!"Invalid number: '{shown size}'"
      | some n =>
        if paths.isEmpty then misuse "truncate" "missing file operand"
        for path in paths do
          let s ← get
          let old := match s.world.files.find s.place path with
            | .ok n => (s.world.files.get n).contents.toList
            | .error _ => []
          let target :=
            if sign = '+' then old.length + n else if sign = '-' then old.length - n else n
          let new := old.take target ++ List.replicate (target - old.length) '\x00'
          store "truncate" .write path new s!"cannot open '{shown path}' for writing"

/-- Makes an empty file or directory with a name of its own. -/
def mktemp : Tool := fun arguments =>
  withChoice "mktemp" (letters "dqtu" "p") false 1 arguments fun options paths => do
    let template := paths.headD "/tmp/tmp.XXXXXXXXXX".toList
    let template :=
      if has 't' options && '/' ∉ template then "/tmp/".toList ++ template else template
    let marks := (template.reverse.takeWhile (· = 'X')).length
    if marks < 3 then refuse "mktemp" s!"too few X's in template '{shown template}'"
    else
      let s ← get
      let number := Number.text s.world.files.clock
      let path := template.take (template.length - marks) ++ pad false 'a' marks number
      let what := s!"failed to create file via template '{shown template}'"
      arrange "mktemp" what fun files place => do
        let (directory, name) ← files.findParent place path
        if has 'd' options then return (files.add directory name (.directory directory []) 0o700).2
        else return (files.add directory name (.regular #[]) 0o600).2
      if (← get).status = 0 then put "mktemp" (path ++ ['\n'])

end Precedence.Shell.Tool

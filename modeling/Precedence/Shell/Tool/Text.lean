import Precedence.Shell.Tool.Basic

namespace Precedence.Shell.Tool

/-- A byte as it is shown where bytes that cannot be printed are. -/
def visible (tabs : Bool) (c : Char) : Bytes :=
  let n := c.toNat
  let plain (n : Nat) : Bytes :=
    if n < 32 then ['^', Char.ofNat (n + 64)] else if n = 127 then ['^', '?'] else [Char.ofNat n]
  if c = '\n' || (c = '\t' && !tabs) then [c]
  else if n < 128 then plain n
  else 'M' :: '-' :: plain (n - 128)

def cat : Tool := fun arguments =>
  let allowed := flags [('b', "number-nonblank"), ('n', "number"), ('s', "squeeze-blank"),
    ('E', "show-ends"), ('T', "show-tabs"), ('v', "show-nonprinting"), ('A', "show-all")] ++
    letters "etu" ""
  withChoice "cat" allowed false 1 arguments fun options paths => do
    let on (cs : String) : Bool := cs.toList.any fun c => has c options
    if (← get).descriptors.lookup 1 = none then refuse "cat" "standard output: Bad file descriptor"
    else
      let mut number := 0
      let mut blanks := 0
      for path in if paths.isEmpty then [['-']] else paths do
        match ← contents path with
        | .error trouble =>
          refuse "cat" s!"{String.ofList path}: {trouble.text}"
          if path = ['-'] && trouble = .badDescriptor then
            warn "cat: closing standard input: Bad file descriptor\n"
        | .ok text =>
          if options.isEmpty then put "cat" text
          else
            let mut shown : Array Bytes := #[]
            for line in fullLines text do
              let blank := line = ['\n']
              blanks := if blank then blanks + 1 else 0
              if !(on "s" && blanks > 1) then
                let counts := if on "b" then !blank else on "n"
                if counts then number := number + 1
                let (body, ending) := if line.getLast? = some '\n' then (line.dropLast, true)
                  else (line, false)
                let body := if on "vAet" then body.flatMap (visible false) else body
                let body :=
                  if on "TAt" then body.flatMap fun c => if c = '\t' then "^I".toList else [c]
                  else body
                let front := if counts then pad false ' ' 6 (Number.text number) ++ ['\t'] else []
                let back := if !ending then [] else if on "EAe" then ['$', '\n'] else ['\n']
                shown := shown.push (front ++ body ++ back)
            put "cat" shown.toList.flatten

/-- How much of the input `head` or `tail` prints. -/
structure Extent where
  bytes : Bool := false
  count : Nat := 10
  /-- With a minus, all but so much; with a plus, all from there on. -/
  sign : Option Char := none

def extent? (bytes : Bool) (cs : Bytes) : Option Extent :=
  match cs with
  | '-' :: rest => (scaled? rest).map fun count => { bytes, count, sign := some '-' }
  | '+' :: rest => (scaled? rest).map fun count => { bytes, count, sign := some '+' }
  | _ => (scaled? cs).map fun count => { bytes, count }

/-- The extent that options ask for, or what is wrong with it. -/
def extentOf (options : List Chosen) : Except String Extent :=
  options.foldlM (fun extent (letter, text) =>
    match letter with
    | '#' => .ok { count := (Number.decimal? text).getD 10 }
    | 'n' | 'c' =>
      match extent? (letter = 'c') text with
      | some extent => .ok extent
      | none =>
        let what := if letter = 'c' then "bytes" else "lines"
        .error s!"invalid number of {what}: '{String.ofList text}'"
    | _ => .ok extent) {}

def firstPart (extent : Extent) (text : Bytes) : Bytes :=
  match extent.bytes, extent.sign with
  | true, some '-' => text.take (text.length - extent.count)
  | true, _ => text.take extent.count
  | false, some '-' =>
    let parts := fullLines text
    (parts.take (parts.length - extent.count)).flatten
  | false, _ => ((fullLines text).take extent.count).flatten

def lastPart (extent : Extent) (text : Bytes) : Bytes :=
  match extent.bytes, extent.sign with
  | true, some '+' => text.drop (extent.count - 1)
  | true, _ => text.drop (text.length - extent.count)
  | false, some '+' => ((fullLines text).drop (extent.count - 1)).flatten
  | false, _ => let parts := fullLines text; (parts.drop (parts.length - extent.count)).flatten

/-- Prints a part of each of the files, under its name if there are several. -/
def parts (tool : String) (part : Bytes → Bytes) (options : List Chosen) (paths : List Bytes) :
    Action Unit := do
  let headed := has 'v' options || (paths.length > 1 && !has 'q' options)
  let mut first := true
  for path in if paths.isEmpty then [['-']] else paths do
    let shown := if path = ['-'] then "standard input" else String.ofList path
    let heading (first : Bool) : Bytes :=
      if headed then ((if first then "" else "\n") ++ s!"==> {shown} <==\n").toList else []
    match ← contents path with
    | .ok text =>
      put tool (heading first ++ part text)
      first := false
    | .error .isDirectory =>
      put tool (heading first)
      refuse tool s!"error reading '{shown}': Is a directory"
      first := false
    | .error trouble =>
      refuse tool s!"cannot open '{shown}' for reading: {trouble.text}"

def extentOptions : List Allowed :=
  flags [('q', "quiet"), ('q', "silent"), ('v', "verbose"), ('z', "zero-terminated")] ++
    settings [('n', "lines"), ('c', "bytes")]

def head : Tool := fun arguments =>
  withChoice "head" extentOptions true 1 arguments fun options paths => do
    match extentOf options with
    | .error text => refuse "head" text
    | .ok extent =>
      if extent.bytes && extent.sign = none && paths.isEmpty then
        match (← get).read 0 (some extent.count) with
        | (.ok text, s) =>
          set s
          put "head" text
        | (.error trouble, s) =>
          set s
          refuse "head" s!"error reading 'standard input': {trouble.text}"
      else if extent.bytes && extent.sign = none then
        for path in paths do
          match ← openFile .read path with
          | .ok stream =>
            let s ← get
            let (text, after) := (s.connect 0 stream).read 0 (some extent.count)
            set { after with descriptors := s.descriptors }
            parts "head" (fun _ => text.toOption.getD []) options [path]
          | .error _ => parts "head" (firstPart extent) options [path]
      else
        let before := (← get).stream? 0
        parts "head" (firstPart extent) options paths
        -- Of a file, no more is used up than what is printed.
        match paths, before with
        | [], some (n, stream) =>
          let s ← get
          let file := s.world.files.get stream.file
          if file.isRegular then
            let used := firstPart extent (file.contents.toList.drop stream.position)
            set (s.moveStream n (stream.position + used.length))
        | _, _ => pure ()

def tail : Tool := fun arguments =>
  let arguments := match arguments with
    | ('+' :: digits) :: rest =>
      if (Number.decimal? digits).isSome then "-n".toList :: ('+' :: digits) :: rest else arguments
    | _ => arguments
  let allowed := extentOptions ++ flags [('f', "follow")]
  withChoice "tail" allowed true 1 arguments fun options paths => do
    match extentOf options with
    | .error text => refuse "tail" text
    | .ok extent => parts "tail" (lastPart extent) options paths

/-! ## Counting -/

/-- What is counted in a text: lines, words, characters, bytes, and the width of the widest line. -/
structure Counts where
  lines : Nat := 0
  words : Nat := 0
  bytes : Nat := 0
  width : Nat := 0

def countsOf (text : Bytes) : Counts :=
  let words := (text.foldl (fun (n, inWord) c =>
    if Number.isBlank c then (n, false)
    else (if inWord then n else n + 1, true)) ((0 : Nat), false)).1
  let width := ((lines text).map fun line =>
    line.foldl (fun n c => if c = '\t' then n / 8 * 8 + 8 else n + 1) 0).foldl max 0
  { lines := text.count '\n', words, bytes := text.length, width }

def wc : Tool := fun arguments =>
  let allowed :=
    flags [('l', "lines"), ('w', "words"), ('c', "bytes"), ('m', "chars"), ('L', "max-line-length")]
  withChoice "wc" allowed false 1 arguments fun options paths => do
    let chosen := if options.isEmpty then ['l', 'w', 'c'] else options.map Prod.fst
    let shown (counts : Counts) : List Nat :=
      [('l', counts.lines), ('w', counts.words), ('m', counts.bytes), ('c', counts.bytes),
        ('L', counts.width)].filterMap fun (letter, n) => if letter ∈ chosen then some n else none
    let s ← get
    let size? (path : Bytes) : Option (Option Nat) :=
      let file := if path = ['-'] then (s.stream? 0).map fun found => found.2.file
        else (s.world.files.find s.place path).toOption
      file.map fun n =>
        let file := s.world.files.get n
        if file.isRegular then some file.contents.size else none
    let names := if paths.isEmpty then [['-']] else paths
    let sizes := names.filterMap size?
    let width := if names.length = 1 && (shown {}).length = 1 then 1
      else max (if sizes.any Option.isNone then 7 else 1)
        (Number.text ((sizes.filterMap id).foldl (· + ·) 0 : Nat)).length
    let line (counts : Counts) (name : Bytes) : Bytes :=
      [' '].intercalate ((shown counts).map fun n : Nat => pad false ' ' width (Number.text n)) ++
        (if name.isEmpty then [] else ' ' :: name) ++ ['\n']
    let mut total : Counts := {}
    for path in names do
      let name := if paths.isEmpty then [] else path
      match ← contents path with
      | .ok text =>
        let counts := countsOf text
        total := ⟨total.lines + counts.lines, total.words + counts.words,
          total.bytes + counts.bytes, max total.width counts.width⟩
        put "wc" (line counts name)
      | .error trouble =>
        refuse "wc" s!"{String.ofList path}: {trouble.text}"
        if trouble = .isDirectory then put "wc" (line {} name)
    if paths.length > 1 then put "wc" (line total "total".toList)

/-! ## Lines -/

def tac : Tool := fun arguments =>
  withChoice "tac" (letters "b" "s") false 1 arguments fun _ paths => do
    for text in ← gather "tac" paths (fun path trouble =>
        if trouble = .isDirectory then s!"{path}: read error: Is a directory"
        else s!"failed to open '{path}' for reading: {trouble.text}") do
      put "tac" (fullLines text).reverse.flatten

def rev : Tool := fun paths =>
  forFiles "rev" paths (fun _ text =>
    put "rev" ((fullLines text).flatMap fun line =>
      if line.getLast? = some '\n' then line.dropLast.reverse ++ ['\n'] else line.reverse))
    fun path trouble => s!"cannot open {path}: {trouble.text}"

def nl : Tool := fun arguments =>
  let allowed := settings [('b', "body-numbering"), ('w', "number-width"),
    ('s', "number-separator"), ('v', "starting-line-number"), ('i', "line-increment"),
    ('n', "number-format")]
  withChoice "nl" allowed false 1 arguments fun options paths => do
    let number (letter : Char) (other : Nat) : Nat :=
      ((last? letter options).bind Number.decimal?).getD other
    let all := last? 'b' options = some ['a']
    let never := last? 'b' options = some ['n']
    let width := number 'w' 6
    let separator := (last? 's' options).getD ['\t']
    let format := (last? 'n' options).map String.ofList
    let mut n := number 'v' 1
    for text in ← gather "nl" paths do
      let mut shown : Array Bytes := #[]
      for line in lines text do
        if never || (line.isEmpty && !all) then
          shown := shown.push (List.replicate (width + separator.length) ' ' ++ line)
        else
          shown := shown.push (pad (format = some "ln") (if format = some "rz" then '0' else ' ')
            width
            (Number.text n) ++ separator ++ line)
          n := n + number 'i' 1
      put "nl" (unlines shown.toList)

def tee : Tool := fun arguments =>
  let allowed := flags [('a', "append"), ('i', "ignore-interrupts"), ('p', "")]
  withChoice "tee" allowed false 1 arguments fun options paths => do
    let text ← match ← contents ['-'] with
      | .ok text => pure text
      | .error trouble => do
        refuse "tee" s!"read error: {trouble.text}"
        pure []
    put "tee" text
    for path in paths do
      match ← openFile (if has 'a' options then .append else .write) path with
      | .ok stream =>
        writeTo stream text
      | .error trouble => refuse "tee" s!"{String.ofList path}: {trouble.text}"

def paste : Tool := fun arguments =>
  let allowed := flags [('s', "serial"), ('z', "zero-terminated")] ++ settings [('d', "delimiters")]
  withChoice "paste" allowed false 1 arguments fun options paths => do
    let given := (last? 'd' options).getD ['\t']
    let rec escaped : Bytes → List Bytes
      | '\\' :: '0' :: rest => [] :: escaped rest
      | '\\' :: c :: rest => [(escape (c :: rest)).1] :: escaped rest
      | c :: rest => [c] :: escaped rest
      | [] => []
    let delimiters := escaped given
    let delimiter (n : Nat) : Bytes :=
      if delimiters.isEmpty then [] else (delimiters[n % delimiters.length]?).getD []
    let joined (parts : List Bytes) : Bytes :=
      (parts.zipIdx.flatMap fun (part, n) => (if n = 0 then [] else delimiter (n - 1)) ++
        part) ++ ['\n']
    let columns := (← gather "paste" paths).map lines
    if has 's' options then put "paste" (columns.flatMap joined)
    else
      -- Columns that come from the standard input take turns with its lines.
      let names := if paths.isEmpty then [['-']] else paths
      let inputs := names.count ['-']
      let rows := ((names.zip columns).find? (·.1 = ['-'])).elim [] Prod.snd
      let columns := if columns.length ≠ names.length then columns
        else (names.zip columns).zipIdx.map fun ((name, column), n) =>
          if name ≠ ['-'] then column
          else
            let turn := (names.take n).count ['-']
            (rows.zipIdx.filter fun (_, k) => k % inputs = turn).map Prod.fst
      let height := (columns.map List.length).foldl max 0
      put "paste" ((List.range height).flatMap fun n =>
        joined (columns.map fun column => (column[n]?).getD []))

def folded (width : Nat) (spaces : Bool) (line : Bytes) : List Bytes :=
  let rec go : Nat → Bytes → List Bytes
    | 0, rest => [rest]
    | fuel + 1, rest =>
      if rest.length ≤ width then [rest]
      else
        let front := rest.take width
        let cut := if spaces then
            match (front.reverse.span (· ≠ ' ')) with
            | (_, []) => width
            | (tail, _) => width - tail.length
          else width
        rest.take cut :: go fuel (rest.drop cut)
  if width = 0 then [line] else go line.length line

def fold : Tool := fun arguments =>
  let allowed := flags [('s', "spaces"), ('b', "bytes")] ++ settings [('w', "width")]
  withChoice "fold" allowed true 1 arguments fun options paths => do
    let width := ((last? 'w' options <|> last? '#' options).bind Number.decimal?).getD 80
    forFiles "fold" paths fun _ text =>
      put "fold" ((fullLines text).flatMap fun line =>
        let (body, ending) :=
          if line.getLast? = some '\n' then (line.dropLast, ['\n']) else (line, [])
        ['\n'].intercalate (folded width (has 's' options) body) ++ ending)

def expand : Tool := fun arguments =>
  let allowed := flags [('i', "initial")] ++ settings [('t', "tabs")]
  withChoice "expand" allowed true 1 arguments fun options paths => do
    let width := max 1 (((last? 't' options <|> last? '#' options).bind Number.decimal?).getD 8)
    forFiles "expand" paths fun _ text =>
      put "expand" ((text.foldl (fun (shown, column) c =>
        if c = '\t' then
          let blanks := width - column % width
          (List.replicate blanks ' ' ++ shown, column + blanks)
        else (c :: shown, if c = '\n' then 0 else column + 1)) (([] : Bytes), (0 : Nat))).1.reverse)

/-- A line with tabs in the place of the blanks at its start, or of all blanks up to tab stops. -/
def withTabs (width : Nat) (everywhere : Bool) : Nat → Nat → Nat → Bool → Bytes → Bytes
  | 0, _, _, _, cs => cs
  | _ + 1, _, waiting, _, [] => List.replicate waiting ' '
  | fuel + 1, column, waiting, front, c :: rest =>
    if c = ' ' && (front || everywhere) then
      if (column + 1) % width = 0 then
        '\t' :: withTabs width everywhere fuel (column + 1) 0 front rest
      else withTabs width everywhere fuel (column + 1) (waiting + 1) front rest
    else if c = '\t' && (front || everywhere) then
      '\t' :: withTabs width everywhere fuel ((column / width + 1) * width) 0 front rest
    else List.replicate waiting ' ' ++ c :: withTabs width everywhere fuel (column + 1) 0 false rest

def unexpand : Tool := fun arguments =>
  withChoice "unexpand" (letters "a" "t") false 1 arguments fun options paths => do
    let width := ((last? 't' options).bind Number.decimal?).getD 8
    forFiles "unexpand" paths fun _ text =>
      put "unexpand" ((fullLines text).flatMap fun line =>
        withTabs (max width 1) (has 'a' options || has 't' options) (2 * line.length + 2) 0 0 true
          line)

def uniq : Tool := fun arguments =>
  let allowed := flags [('c', "count"), ('d', "repeated"), ('D', "all-repeated"), ('u', "unique"),
    ('i', "ignore-case"), ('z', "zero-terminated")] ++
    settings [('f', "skip-fields"), ('s', "skip-chars"), ('w', "check-chars")]
  withChoice "uniq" allowed false 1 arguments fun options paths => do
    let number (letter : Char) : Option Nat := (last? letter options).bind Number.decimal?
    let skipField (cs : Bytes) : Bytes :=
      (cs.dropWhile fun c => c = ' ' || c = '\t').dropWhile fun c => c ≠ ' ' && c ≠ '\t'
    let key (line : Bytes) : Bytes :=
      let line := (List.range ((number 'f').getD 0)).foldl (fun line _ => skipField line) line
      let line := line.drop ((number 's').getD 0)
      let line := match number 'w' with
        | some n => line.take n
        | none => line
      if has 'i' options then line.map Char.toLower else line
    match ← contents (paths.head?.getD ['-']) with
    | .error trouble => refuse "uniq" s!"{String.ofList (paths.head?.getD [])}: {trouble.text}"
    | .ok text =>
      let groups := (lines text).splitBy fun a b => key a = key b
      let kept := groups.filter fun group =>
        if has 'd' options || has 'D' options then group.length > 1
        else if has 'u' options then group.length = 1
        else true
      let shown := kept.flatMap fun group =>
        if has 'D' options then group
        else if has 'c' options then
          [pad false ' ' 7 (Number.text group.length) ++ ' ' :: group.head?.getD []]
        else group.take 1
      match paths[1]? with
      | none => put "uniq" (unlines shown)
      | some path =>
        match ← openFile .write path with
        | .ok stream =>
          writeTo stream (unlines shown)
        | .error trouble => refuse "uniq" s!"{String.ofList path}: {trouble.text}"

end Precedence.Shell.Tool

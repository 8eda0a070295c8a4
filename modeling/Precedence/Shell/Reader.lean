import Precedence.Shell.Command
/-!
# Reading shell commands

A script is read one line at a time, so that the lines before a mistake can run: `Reader.line?`
reads a line, which goes on over further lines inside compound commands, quotes and texts that
stand in the script. Words are read into parts and tokens are put back where a command ends only
with what follows it.
-/

namespace Precedence.Shell

structure SyntaxError where
  line : Nat
  reason : String

namespace Reader

inductive Opening where
  | file (access : Access)
  | duplicate
  /-- The word ends a text that follows the line. -/
  | document (stripped : Bool)

inductive Token where
  | finish
  | newline
  | symbol (text : String)
  | redirection (descriptor : Nat) (opening : Opening)
  | word (word : Word)
  | keyword (text : String)

def Token.name : Token → String
  | finish => "end of file"
  | newline => "newline"
  | symbol text | keyword text => "\"" ++ text ++ "\""
  | redirection .. => "redirection"
  | word _ => "word"

def Token.isSymbol (text : String) : Token → Bool
  | symbol other => text = other
  | _ => false

def Token.isKeyword (text : String) : Token → Bool
  | keyword other => text = other
  | _ => false

def Token.closesList : Token → Bool
  | finish => true
  | symbol text => text = ")" || text = ";;"
  | keyword text => text ∈ ["then", "else", "elif", "fi", "do", "done", "esac", "\x7d"]
  | _ => false

def keywords : List String :=
  ["!", "case", "do", "done", "elif", "else", "esac", "fi", "for", "if", "in", "then", "until",
    "while", "\x7b", "\x7d"]

structure Pending where
  number : Nat
  delimiter : Bytes
  stripped : Bool
  verbatim : Bool

structure Inserted where
  name : Bytes
  /-- How much of the script is left behind the text. -/
  left : Nat
  /-- The text ends with a blank, so that an alias may follow it. -/
  goesOn : Bool

structure Scan where
  rest : Bytes
  line : Nat := 1
  back : Option Token := none
  pending : List Pending := []
  /-- The texts that were read, by their numbers. -/
  documents : List (Nat × Word) := []
  next : Nat
  aliases : List (Bytes × Bytes) := []
  inserted : List Inserted := []

end Reader

abbrev Reader := StateT Reader.Scan (Except SyntaxError)

namespace Reader

def fail {α : Type} (reason : String) : Reader α := fun s => .error ⟨s.line, reason⟩

def unexpected {α : Type} (token : Token) (expecting : Option String) : Reader α :=
  fail (token.name ++ " unexpected" ++ match expecting with
    | none => ""
    | some what => " (expecting " ++ what ++ ")")

/-- The text without the line breaks at its front that a backslash takes away, and their number. -/
def joined : Bytes → Bytes × Nat
  | '\\' :: '\n' :: rest => let (rest, n) := joined rest; (rest, n + 1)
  | cs => (cs, 0)

def peekRaw : Reader (Option Char) := do return (← get).rest.head?

/-- The next character, where a backslash takes away a line break. -/
def peek : Reader (Option Char) := do
  let (rest, breaks) := joined (← get).rest
  modify fun s => { s with rest, line := s.line + breaks }
  peekRaw

def skip : Reader Unit := modify fun s =>
  match s.rest with
  | [] => s
  | c :: rest => { s with rest, line := if c = '\n' then s.line + 1 else s.line }

def skipWhen (c : Char) : Reader Bool := do
  if (← peek) = some c then skip; return true
  else return false

def takeWhile (p : Char → Bool) : Nat → Reader Bytes
  | 0 => return []
  | fuel + 1 => do
    match ← peek with
    | some c => if p c then skip; return c :: (← takeWhile p fuel) else return []
    | none => return []

def putBack (token : Token) : Reader Unit := modify fun s => { s with back := some token }

def isBlank (c : Char) : Bool := c = ' ' || c = '\t'

def endsWord (c : Char) : Bool := c ∈ " \t\n;&|<>()".toList

/-- Whether a character is the name of a parameter of its own. -/
def isSpecial (c : Char) : Bool := c ∈ "#?$!-*@".toList || c.isDigit

inductive Closer where
  /-- The end of a bare word. -/
  | blank
  | quote
  | brace
  /-- Two brackets; so many others are open. -/
  | brackets (depth : Nat)
  | finish
deriving DecidableEq

structure Setting where
  closer : Closer
  quoted : Bool
  /-- It is part of a text that stands in the script. -/
  document : Bool := false
  braced : Bool := false

namespace Setting

def inQuotes (s : Setting) : Setting := { s with closer := .quote, quoted := true }

def inBraces (s : Setting) (quoted : Bool) : Setting :=
  { s with closer := .brace, quoted, braced := true }

/-- Whether a backslash takes away the meaning of a character, and is taken away itself. -/
def escapes (s : Setting) (c : Char) : Bool :=
  !s.quoted || c ∈ "\\\x60$".toList || (c = '"' && !(s.document && !s.braced)) ||
    (c = '}' && s.braced)

def unended? (s : Setting) : Option String :=
  match s.closer with
  | .brackets _ => some "Missing '))'"
  | .quote => some (if s.document then "Missing '\x7d'" else "Unterminated quoted string")
  | .brace =>
    some (if s.quoted && !s.document then "Unterminated quoted string" else "Missing '\x7d'")
  | .blank | .finish => none

end Setting

def singleQuoted : Nat → Reader Word
  | 0 => fail "Unterminated quoted string"
  | fuel + 1 => do
    match ← peekRaw with
    | none => fail "Unterminated quoted string"
    | some '\'' => skip; return [.mark]
    | some c => skip; return .char c true :: (← singleQuoted fuel)

def backQuoted (quoted : Bool) : Nat → Reader Bytes
  | 0 => fail "EOF in backquote substitution"
  | fuel + 1 => do
    match ← peek with
    | none => fail "EOF in backquote substitution"
    | some '\x60' => skip; return []
    | some '\\' =>
      skip
      match ← peekRaw with
      | none => fail "EOF in backquote substitution"
      | some c =>
        skip
        let rest ← backQuoted quoted fuel
        return if c ∈ "\\\x60$".toList || (quoted && c = '"') then c :: rest else '\\' :: c :: rest
    | some c => skip; return c :: (← backQuoted quoted fuel)

/-- Quotes around a part, which keep their field alive; around all parameters they do not. -/
def quotation (parts : Word) : Word :=
  match parts with
  | [.parameter ['@'] .value _] => parts
  | _ => .mark :: parts ++ [.mark]

def rule? : Char → Option Rule
  | '-' => some .useDefault
  | '=' => some .assign
  | '?' => some .complain
  | '+' => some .alternative
  | _ => none

/-- The name of a parameter in braces, and whether its length is meant. There is none where the
braces start with no name. -/
def bracedName (fuel : Nat) : Reader (Option (Bytes × Bool)) := do
  let name (c : Char) : Reader Bytes :=
    takeWhile (if c.isDigit then Char.isDigit else isNameChar) fuel
  match ← peek with
  | none | some '}' => return none
  | some '#' =>
    skip
    match ← peek with
    | none => return some (['#'], false)
    | some c =>
      if isNameChar c then return some (← name c, true)
      else
        let before ← get
        skip
        let last ← peek
        if c ≠ '}' && last = some '}' && isSpecial c then return some ([c], true)
        else
          set before
          return some (['#'], false)
  | some c =>
    if isNameChar c then return some (← name c, false)
    else
      skip
      return if isSpecial c then some ([c], false) else none

/-- The lines up to one that is the delimiter, which is skipped. -/
def documentLines (pending : Pending) : Nat → Bool → Bytes → Bytes × Bytes
  | 0, _, cs => (cs, [])
  | _ + 1, _, [] => ([], [])
  | fuel + 1, continued, cs =>
    let cs := if pending.stripped && !continued then cs.dropWhile (· = '\t') else cs
    let (line, rest) := cs.span (· ≠ '\n')
    if line = pending.delimiter && !continued then ([], rest.drop 1)
    else
      let slashes := (line.reverse.takeWhile (· = '\\')).length
      let (others, after) :=
        documentLines pending fuel (!pending.verbatim && slashes % 2 = 1) (rest.drop 1)
      (line ++ rest.take 1 ++ others, after)

def opening (descriptor : Option Nat) : Reader Token := do
  if ← skipWhen '<' then
    let read (opening : Opening) : Token := .redirection (descriptor.getD 0) opening
    if ← skipWhen '<' then return read (.document (← skipWhen '-'))
    else if ← skipWhen '&' then return read .duplicate
    else if ← skipWhen '>' then return read (.file .readWrite)
    else return read (.file .read)
  else
    skip
    let write (opening : Opening) : Token := .redirection (descriptor.getD 1) opening
    if ← skipWhen '>' then return write (.file .append)
    else if ← skipWhen '|' then return write (.file .overwrite)
    else if ← skipWhen '&' then return write .duplicate
    else return write (.file .write)

def doubled (c : Char) : Reader Token := do
  skip
  if ← skipWhen c then return .symbol (.ofList [c, c]) else return .symbol (.ofList [c])

/-- The names of the commands that functions must not have. -/
def reserved : List String :=
  [".", ":", "break", "continue", "eval", "exec", "exit", "export", "local", "readonly", "return",
    "set", "shift", "times", "trap", "unset"]

inductive ListKind where
  /-- With the line. -/
  | line
  /-- With a token that closes a list, behind one command at least. -/
  | body
  | optional
deriving DecidableEq

def within {α : Type} (text : Bytes) (line : Nat) (reader : Reader α) : Reader α := do
  let before ← get
  set { before with rest := text, line, back := none, pending := [] }
  let a ← reader
  modify fun s => { before with documents := s.documents, next := s.next }
  return a

mutual

def stretch : Nat → Setting → Reader Word
  | 0, _ => fail "end of file unexpected"
  | fuel + 1, setting => do
    match ← peek with
    | none =>
      match setting.unended? with
      | some reason => fail reason
      | none => return []
    | some c =>
      let literal : Reader Word := do
        skip
        return .char c setting.quoted :: (← stretch fuel setting)
      match c with
      | '\\' =>
        skip
        match ← peekRaw with
        | none => return [.char '\\' true]
        | some c =>
          skip
          let rest ← stretch fuel setting
          return if setting.escapes c then .char c true :: rest
            else .char '\\' true :: .char c true :: rest
      | '\'' =>
        if setting.quoted then literal
        else
          skip
          let text ← singleQuoted fuel
          return .mark :: text ++ (← stretch fuel setting)
      | '"' =>
        match setting.closer with
        | .quote => skip; return []
        | .finish | .brackets _ => literal
        | .blank | .brace =>
          skip
          let text ← stretch fuel setting.inQuotes
          return quotation text ++ (← stretch fuel setting)
      | '$' =>
        skip
        let part ← dollar fuel setting
        return part :: (← stretch fuel setting)
      | '\x60' =>
        skip
        let text ← backQuoted setting.quoted fuel
        let body ← within text 1 (list fuel .optional)
        return .substitution body setting.quoted :: (← stretch fuel setting)
      | _ =>
        match setting.closer, c with
        | .brace, '}' => skip; return []
        | .brackets depth, '(' =>
          skip
          return .char c true :: (← stretch fuel { setting with closer := .brackets (depth + 1) })
        | .brackets (depth + 1), ')' =>
          skip
          return .char c true :: (← stretch fuel { setting with closer := .brackets depth })
        | .brackets 0, ')' =>
          skip
          if ← skipWhen ')' then return []
          else return .char c true :: (← stretch fuel setting)
        | .blank, _ => if endsWord c then return [] else literal
        | _, _ => literal

def dollar : Nat → Setting → Reader Part
  | 0, _ => fail "end of file unexpected"
  | fuel + 1, setting => do
    match ← peek with
    | some '(' =>
      skip
      if ← skipWhen '(' then
        let text ← stretch fuel
          { setting with closer := .brackets 0, quoted := true, braced := false }
        return .arithmetic text setting.quoted
      else
        let pending := (← get).pending
        modify fun s => { s with pending := [] }
        let body ← list fuel .optional
        let last ← token fuel false false
        if !last.isSymbol ")" then unexpected last (some "\")\"")
        let lost := (← get).pending.map fun text => (text.number, [])
        modify fun s => { s with documents := lost ++ s.documents, pending }
        return .substitution body setting.quoted
    | some '{' =>
      skip
      let word (quoted : Bool) : Reader Word := stretch fuel (setting.inBraces quoted)
      let parameter (name : Bytes) (use : Use) : Part := .parameter name use setting.quoted
      let senseless : Reader Part := do
        let _ ← word setting.quoted
        return parameter [] .senseless
      match ← bracedName fuel with
      | none => senseless
      | some (name, true) =>
        if ← skipWhen '}' then return parameter name .length else senseless
      | some (name, false) =>
        match ← peek with
        | some '}' => skip; return parameter name .value
        | some '%' =>
          skip
          let longest ← skipWhen '%'
          return parameter name (.trim true longest (← word false))
        | some '#' =>
          skip
          let longest ← skipWhen '#'
          return parameter name (.trim false longest (← word false))
        | _ =>
          let orEmpty ← skipWhen ':'
          match ← peek with
          | some '}' =>
            skip
            let _ ← word setting.quoted
            return parameter name .value
          | c =>
            skip
            match c.bind rule? with
            | some rule => return parameter name (.fallback rule orEmpty (← word setting.quoted))
            | none => senseless
    | some c =>
      if isNameStart c then
        return .parameter (← takeWhile isNameChar fuel) .value setting.quoted
      else if isSpecial c then
        skip
        return .parameter [c] .value setting.quoted
      else return .char '$' setting.quoted
    | none => return .char '$' setting.quoted

/-- The word that ends a text in the script. Nothing is expanded in it. -/
def delimiter : Nat → Reader Word
  | 0 => return []
  | fuel + 1 => do
    match ← peek with
    | none => return []
    | some '\\' =>
      skip
      match ← peekRaw with
      | none => return [.char '\\' true]
      | some c => skip; return .char c true :: (← delimiter fuel)
    | some '\'' =>
      skip
      let text ← singleQuoted fuel
      return .mark :: text ++ (← delimiter fuel)
    | some '"' =>
      skip
      let text ← takeQuoted fuel
      return .mark :: text ++ (← delimiter fuel)
    | some c =>
      if endsWord c then return []
      skip
      return .char c false :: (← delimiter fuel)

/-- The text up to the next double quote, with nothing expanded in it. -/
def takeQuoted : Nat → Reader Word
  | 0 => fail "Unterminated quoted string"
  | fuel + 1 => do
    match ← peek with
    | none => fail "Unterminated quoted string"
    | some '"' => skip; return [.mark]
    | some c => skip; return .char c true :: (← takeQuoted fuel)

/-- The token that starts at the next character that is no blank, or that was put back. -/
def rawToken : Nat → Reader Token
  | 0 => return .finish
  | fuel + 1 => do
    match (← get).back with
    | some token =>
      modify fun s => { s with back := none }
      return token
    | none =>
      match ← peek with
      | none => return .finish
      | some c =>
        match c with
        | ' ' | '\t' => skip; rawToken fuel
        | '#' =>
          modify fun s => { s with rest := s.rest.dropWhile (· ≠ '\n') }
          rawToken fuel
        | '\n' => skip; return .newline
        | '&' | '|' | ';' => doubled c
        | '(' | ')' => skip; return .symbol (.ofList [c])
        | '<' | '>' => opening none
        | _ =>
          let word ← stretch fuel ⟨.blank, false, false, false⟩
          match word, (← get).rest with
          | [.char digit false], '<' :: _ | [.char digit false], '>' :: _ =>
            if digit.isDigit then opening (some (digit.toNat - '0'.toNat)) else return .word word
          | _, _ => return .word word

/-- The next token. Words may be keywords, and line breaks may be skipped. -/
def token : Nat → Bool → Bool → Reader Token
  | 0, _, _ => return .finish
  | fuel + 1, asKeywords, skipBreaks => tokenAt fuel asKeywords asKeywords skipBreaks

/-- The next token. At the `start` of a command, the text of an alias is read in its place. -/
def tokenAt : Nat → Bool → Bool → Bool → Reader Token
  | 0, _, _, _ => return .finish
  | fuel + 1, start, asKeywords, skipBreaks => do
    let before := (← get).rest.length
    match ← rawToken fuel with
    | .newline =>
      if skipBreaks then
        documents fuel
        tokenAt fuel start asKeywords skipBreaks
      else return .newline
    | .word word =>
      match word.plain? with
      | some cs =>
        let text := String.ofList cs
        if asKeywords && text ∈ keywords then return .keyword text
        let s ← get
        let left := s.rest.length
        let inserted := s.inserted.filter (·.left ≤ left)
        let follows := s.inserted.any fun other =>
          other.goesOn && other.left ≤ before && left + cs.length ≤ other.left
        match if start || follows then s.aliases.lookup cs else none with
        | none => return .word word
        | some value =>
          if inserted.any (·.name = cs) then return .word word
          let goesOn := (value.getLast?.map isBlank).getD false
          set { s with rest := value ++ s.rest, inserted := ⟨cs, left, goesOn⟩ :: inserted }
          tokenAt fuel start asKeywords skipBreaks
      | none => return .word word
    | other => return other

def documents : Nat → Reader Unit
  | 0 => return
  | fuel + 1 => do
    match (← get).pending with
    | [] => return
    | first :: others =>
      modify fun s => { s with pending := others }
      let s ← get
      let (text, rest) := documentLines first s.rest.length false s.rest
      let word ← if first.verbatim then pure (text.map fun c => Part.char c true)
        else within text s.line (stretch fuel ⟨.finish, true, true, false⟩)
      let breaks := s.rest.count '\n' - rest.count '\n'
      modify fun s => { s with
        rest
        line := s.line + breaks
        documents := (first.number, word) :: s.documents }
      documents fuel

def target : Nat → Nat → Opening → Reader Redirect
  | 0, _, _ => fail "end of file unexpected"
  | fuel + 1, descriptor, opening => do
    let word : Reader Word := do
      match ← token fuel false false with
      | .word word => return word
      | other => unexpected other none
    match opening with
    | .file access => return .file descriptor access (← word)
    | .duplicate => return .duplicate descriptor (← word)
    | .document stripped =>
      let _ ← takeWhile isBlank fuel
      let parts ← match ← peekRaw with
        | none => word
        | some c => if endsWord c || c = '#' then word else delimiter fuel
      let number := (← get).next
      let verbatim := parts.plain?.isNone
      modify fun s => { s with
        next := number + 1
        pending := s.pending ++ [⟨number, Word.literal parts, stripped, verbatim⟩] }
      return .document descriptor number

def redirects : Nat → Reader (List Redirect)
  | 0 => return []
  | fuel + 1 => do
    match ← token fuel true false with
    | .redirection descriptor opening =>
      let first ← target fuel descriptor opening
      return first :: (← redirects fuel)
    | other => putBack other; return []

/-- A list of commands; `first` is what was read of it. -/
def list : Nat → ListKind → Reader Command
  | 0, _ => fail "end of file unexpected"
  | fuel + 1, kind => listFrom fuel kind none

def listFrom : Nat → ListKind → Option Command → Reader Command
  | 0, _, _ => fail "end of file unexpected"
  | fuel + 1, kind, before => do
    let soFar := before.getD .nothing
    match ← token fuel true (kind ≠ .line) with
    | .newline => documents fuel; return soFar
    | .finish =>
      documents fuel
      putBack .finish
      return soFar
    | start =>
      putBack start
      if start.closesList && (kind = .optional || (kind = .body && before.isSome)) then return soFar
      let command ← andOr fuel
      let last ← token fuel false false
      let command := if last.isSymbol "&" then .background command else command
      let soFar := match before with
        | none => command
        | some first => .sequence first command
      match last with
      | .newline | .finish => putBack last; listFrom fuel kind (some soFar)
      | _ =>
        if last.isSymbol "&" || last.isSymbol ";" then listFrom fuel kind (some soFar)
        else if kind = .line then unexpected last none
        else
          putBack last
          return soFar

/-- Pipelines between `&&` and `||`. -/
def andOr : Nat → Reader Command
  | 0 => fail "end of file unexpected"
  | fuel + 1 => do
    let start ← token fuel true false
    andOrFrom fuel (← pipeline fuel start)

def andOrFrom : Nat → Command → Reader Command
  | 0, first => return first
  | fuel + 1, first => do
    let operator ← token fuel false false
    if operator.isSymbol "&&" then
      let start ← token fuel true true
      andOrFrom fuel (.andThen first (← pipeline fuel start))
    else if operator.isSymbol "||" then
      let start ← token fuel true true
      andOrFrom fuel (.orElse first (← pipeline fuel start))
    else
      putBack operator
      return first

/-- Commands between `|`, the first of which starts with the given token. -/
def pipeline : Nat → Token → Reader Command
  | 0, _ => fail "end of file unexpected"
  | fuel + 1, start => do
    if start.isKeyword "!" then
      return .invert (← commands fuel (← token fuel true false))
    else commands fuel start

def commands : Nat → Token → Reader Command
  | 0, _ => fail "end of file unexpected"
  | fuel + 1, start => do
    let first ← command fuel start
    match ← pipedCommands fuel with
    | [] => return first
    | others => return .pipeline (first :: others)

def pipedCommands : Nat → Reader (List Command)
  | 0 => return []
  | fuel + 1 => do
    let operator ← token fuel false false
    if operator.isSymbol "|" then
      let first ← command fuel (← token fuel true true)
      return first :: (← pipedCommands fuel)
    else
      putBack operator
      return []

def expectKeyword : Nat → String → Reader Unit
  | 0, _ => fail "end of file unexpected"
  | fuel + 1, text => do
    let found ← token fuel true false
    if !found.isKeyword text then unexpected found (some ("\"" ++ text ++ "\""))

def command : Nat → Token → Reader Command
  | 0, _ => fail "end of file unexpected"
  | fuel + 1, start => do
    let line := (← get).line
    let finished (body : Command) : Reader Command := do
      match ← redirects fuel with
      | [] => return body
      | redirects =>
        match body with
        | .subshell line body _ => return .subshell line body redirects
        | body => return .redirected line body redirects
    match start with
    | .word _ | .redirection .. =>
      putBack start
      simple fuel line [] [] []
    | .symbol "(" =>
      let body ← list fuel .body
      let last ← token fuel true false
      if !last.isSymbol ")" then unexpected last (some "\")\"")
      finished (.subshell line body [])
    | .keyword "\x7b" =>
      let body ← list fuel .body
      expectKeyword fuel "\x7d"
      finished body
    | .keyword "if" =>
      let body ← conditional fuel
      finished body
    | .keyword "while" => finished (← loop fuel false)
    | .keyword "until" => finished (← loop fuel true)
    | .keyword "for" =>
      let name ← match ← token fuel false false with
        | .word word =>
          match word.plain? with
          | some name => if isName name then pure name else fail "Bad for loop variable"
          | none => fail "Bad for loop variable"
        | _ => fail "Bad for loop variable"
      let found ← token fuel true true
      let words ← if found.isKeyword "in" then forWords fuel
        else
          if !found.isSymbol ";" then putBack found
          pure [[Part.parameter ['@'] .value true]]
      let found ← token fuel true true
      if !found.isKeyword "do" then unexpected found (some "\"do\"")
      let body ← list fuel .body
      expectKeyword fuel "done"
      finished (.each line name words body)
    | .keyword "case" =>
      let word ← match ← token fuel false false with
        | .word word => pure word
        | other => unexpected other (some "word")
      let found ← token fuel true true
      if !found.isKeyword "in" then unexpected found (some "\"in\"")
      finished (.choose line word (← branches fuel))
    | other => unexpected other none

def forWords : Nat → Reader (List Word)
  | 0 => fail "end of file unexpected"
  | fuel + 1 => do
    match ← token fuel false false with
    | .word word => return word :: (← forWords fuel)
    | .newline => documents fuel; return []
    | .symbol ";" => return []
    | other => unexpected other none

/-- What follows `if` or `elif`, up to the end of the whole command. -/
def conditional : Nat → Reader Command
  | 0 => fail "end of file unexpected"
  | fuel + 1 => do
    let condition ← list fuel .body
    expectKeyword fuel "then"
    let yes ← list fuel .body
    match ← token fuel true false with
    | .keyword "elif" => return .conditional condition yes (← conditional fuel)
    | .keyword "else" =>
      let no ← list fuel .body
      expectKeyword fuel "fi"
      return .conditional condition yes no
    | .keyword "fi" => return .conditional condition yes .nothing
    | other => unexpected other (some "\"fi\"")

def loop : Nat → Bool → Reader Command
  | 0, _ => fail "end of file unexpected"
  | fuel + 1, whileFailing => do
    let condition ← list fuel .body
    expectKeyword fuel "do"
    let body ← list fuel .body
    expectKeyword fuel "done"
    return .loop whileFailing condition body

def branches : Nat → Reader (List (List Word × Command))
  | 0 => fail "end of file unexpected"
  | fuel + 1 => do
    let start ← token fuel true true
    if start.isKeyword "esac" then return []
    let start ← if start.isSymbol "(" then token fuel false false else pure start
    let patterns ← patterns fuel start
    let body ← list fuel .optional
    let last ← token fuel true true
    if last.isKeyword "esac" then return [(patterns, body)]
    else if last.isSymbol ";;" then return (patterns, body) :: (← branches fuel)
    else unexpected last (some "\";;\"")

/-- The patterns of a branch, the first of which is the given token, and the bracket behind them. -/
def patterns : Nat → Token → Reader (List Word)
  | 0, _ => fail "end of file unexpected"
  | fuel + 1, start => do
    let pattern : Word := match start with
      | .word word => word
      | .keyword text => text.toList.map fun c => .char c false
      | _ => []
    let found ← token fuel false false
    if found.isSymbol "|" then
      return pattern :: (← patterns fuel (← token fuel false false))
    else if found.isSymbol ")" then return [pattern]
    else unexpected found (some "\")\"")

def simple : Nat → Nat → List Word → List Word → List Redirect → Reader Command
  | 0, _, _, _, _ => fail "end of file unexpected"
  | fuel + 1, line, assignments, words, redirects => do
    match ← tokenAt fuel words.isEmpty false false with
    | .word word =>
      if words.isEmpty && word.assignment?.isSome then
        simple fuel line (assignments ++ [word]) words redirects
      else simple fuel line assignments (words ++ [word]) redirects
    | .redirection descriptor opening =>
      let redirect ← target fuel descriptor opening
      simple fuel line assignments words (redirects ++ [redirect])
    | other =>
      match other.isSymbol "(", assignments, words, redirects with
      | true, [], [name], [] =>
        let found ← token fuel false false
        if !found.isSymbol ")" then unexpected found (some "\")\"")
        match name.plain? with
        | some name =>
          if isName name && .ofList name ∉ reserved then
            return .define name (← command fuel (← token fuel true true))
          else fail "Bad function name"
        | none => fail "Bad function name"
      | _, _, _, _ =>
        putBack other
        return .simple line assignments words redirects

end

structure Line where
  command : Command
  rest : Bytes
  /-- The number of the line on which the rest starts. -/
  next : Nat

/-- The first line of a script, if there is one, and the texts that it reads in the script. -/
def line? (aliases : List (Bytes × Bytes)) (script : Bytes) (line next : Nat) :
    Except SyntaxError (Option Line × List (Nat × Word) × Nat) := do
  let size := (aliases.map fun (_, value) => value.length).foldl (· + ·) script.length
  let fuel := 16 * size + 64
  let (command, scan) ← list fuel .line |>.run { rest := script, line, next, aliases }
  let nothing := match command with
    | .nothing => true
    | _ => false
  let found := if nothing && scan.back.isSome then none else some ⟨command, scan.rest, scan.line⟩
  return (found, scan.documents, scan.next)

end Reader

end Precedence.Shell

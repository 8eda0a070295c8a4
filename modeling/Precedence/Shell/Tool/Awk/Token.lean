import Precedence.Shell.Tool.Awk.Program

namespace Precedence.Shell.Tool.Awk

inductive Token where
  | newline
  | number (value : Float)
  | text (value : Bytes)
  | regex (source : Bytes)
  | name (name : Bytes)
  /-- A name with a bracket right behind it. -/
  | called (name : Bytes)
  | keyword (word : String)
  | standard (function : String)
  | sign (text : String)
deriving BEq

namespace Token

def keywords : List String :=
  ["BEGIN", "END", "function", "func", "if", "else", "while", "for", "do", "break", "continue",
    "next", "nextfile", "exit", "return", "delete", "in", "getline", "print", "printf"]

def functions : List String :=
  ["length", "substr", "index", "split", "sub", "gsub", "match", "sprintf", "sin", "cos", "atan2",
    "exp", "log", "sqrt", "int", "rand", "srand", "tolower", "toupper", "system", "close", "fflush"]

def signs : List String :=
  ["&&", "||", "++", "--", "+=", "-=", "*=", "/=", "%=", "^=", "==", "<=", ">=", "!=", "!~", ">>",
    "\x7b", "\x7d", "(", ")", "[", "]", ";", ",", "+", "-", "*", "/", "%", "^", "!", ">", "<", "|",
    "?", ":", "~", "$", "="]

def isOperand : Token → Bool
  | number _ | text _ | regex _ | name _ | standard _ => true
  | sign mark => mark ∈ [")", "]", "++", "--"]
  | _ => false

def shown : Token → String
  | newline => "end of line"
  | number value => String.ofList (plainText "%.6g".toList value)
  | text value => String.ofList value
  | regex source => "/" ++ String.ofList source ++ "/"
  | name word | called word => String.ofList word
  | keyword word => word
  | standard function => function
  | sign mark => mark

end Token

/-- The byte that stands behind a backslash in a text, and what follows. Without one, the backslash
stands for itself. -/
def escaped (cs : Bytes) : Bytes × Bytes :=
  match cs with
  | '"' :: rest => (['"'], rest)
  | 'e' :: rest => (['\\', 'e'], rest)
  | _ =>
    let (c, rest) := escape cs
    ([c], rest)

def undone : Nat → Bytes → Bytes
  | 0, _ | _, [] => []
  | fuel + 1, '\\' :: rest =>
    let (text, rest) := escaped rest
    text ++ undone fuel rest
  | fuel + 1, c :: rest => c :: undone fuel rest

/-- The characters up to a mark that no backslash precedes, and what follows the mark. -/
def quoted (mark : Char) : Bytes → Option (Bytes × Bytes)
  | [] | '\n' :: _ => none
  | '\\' :: c :: rest => do
    let (text, rest) ← quoted mark rest
    return ('\\' :: c :: text, rest)
  | c :: rest =>
    if c = mark then some ([], rest)
    else do
      let (text, rest) ← quoted mark rest
      return (c :: text, rest)

/-- An expression for texts without the backslashes in front of slashes. -/
def withoutSlashes : Bytes → Bytes
  | '\\' :: '/' :: rest => '/' :: withoutSlashes rest
  | '\\' :: c :: rest => '\\' :: c :: withoutSlashes rest
  | c :: rest => c :: withoutSlashes rest
  | [] => []

/-- The tokens of a program with their lines. `operand` tells whether a value stands in front. -/
def tokens : Nat → Nat → Bool → Bytes → Except String (List (Token × Nat))
  | 0, _, _, _ | _, _, _, [] => .ok []
  | fuel + 1, line, operand, c :: rest => do
    let add (token : Token) (rest : Bytes) : Except String (List (Token × Nat)) := do
      return (token, line) :: (← tokens fuel line token.isOperand rest)
    if c = ' ' || c = '\t' || c = '\r' then tokens fuel line operand rest
    else if c = '\n' then
      return (.newline, line) :: (← tokens fuel (line + 1) false rest)
    else if c = '#' then tokens fuel line operand (rest.dropWhile (· ≠ '\n'))
    else if c = '"' then
      match quoted '"' rest with
      | some (text, rest) => add (.text (undone (text.length + 1) text)) rest
      | none => .error s!"line {line}: runaway string constant \"{String.ofList (rest.take 8)} ..."
    else if c = '/' && !operand then
      match quoted '/' rest with
      | some (text, rest) => add (.regex (withoutSlashes text)) rest
      | none =>
        .error s!"line {line}: runaway regular expression /{String.ofList (rest.take 8)} ..."
    else if c.isDigit || (c = '.' && ((rest.head?.map Char.isDigit).getD false)) then
      match decimalNumber? (c :: rest) with
      | some (n, rest) => add (.number (ofDecimal n)) rest
      | none => tokens fuel line operand rest
    else if c.isAlpha || c = '_' then
      let (name, rest) := (c :: rest).span fun c => c.isAlphanum || c = '_'
      let word := String.ofList name
      if word ∈ Token.keywords then add (.keyword (if word = "func" then "function" else word)) rest
      else if word ∈ Token.functions then add (.standard word) rest
      else if rest.head? = some '(' then add (.called name) rest
      else add (.name name) rest
    else
      match c, rest with
      | '\\', '\n' :: rest => tokens fuel (line + 1) operand rest
      | _, _ =>
        match Token.signs.find? fun text => text.toList.isPrefixOf (c :: rest) with
        | some text => add (.sign text) ((c :: rest).drop text.length)
        | none => .error s!"{line}: unexpected character '{String.ofList [c]}'"

end Precedence.Shell.Tool.Awk

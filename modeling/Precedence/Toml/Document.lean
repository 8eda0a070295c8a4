import Precedence.Toml.Quoted
import Precedence.Toml.Scalar
/-!
# Configuration documents

`Document.read?` reads a text as a document: lines with a key and its value, under headers that
open tables. A value may go over several lines only inside brackets, braces and triple quotes.
There is no answer for a text that is not a document, and none for values nested deeper than
`maxDepth` or keys of more steps.

Readers take a text from their place on and give what they read together with what follows.
-/

namespace Precedence.Toml

/-- How deep arrays and tables between braces may be nested, and how many steps a key may have. -/
def maxDepth : Nat := 80

def isSpace (c : Char) : Bool := c = ' ' || c = '\t'

def skipSpace (cs : List Char) : List Char := cs.dropWhile isSpace

/-- What follows a comment, if one starts here. Comments hold no control characters. -/
def skipComment? (cs : List Char) : Option (List Char) :=
  match cs with
  | '#' :: rest =>
    match rest.dropWhile isPrinted with
    | [] => some []
    | '\n' :: rest => some ('\n' :: rest)
    | '\r' :: '\n' :: rest => some ('\n' :: rest)
    | _ => none
  | _ => some cs

def skipBlank? : Nat → List Char → Option (List Char)
  | 0, _ => none
  | fuel + 1, cs => do
    match ← skipComment? (skipSpace cs) with
    | '\n' :: rest | '\r' :: '\n' :: rest => skipBlank? fuel rest
    | rest => some rest

def endLine? (cs : List Char) : Option (List Char) := do
  match ← skipComment? (skipSpace cs) with
  | [] => some []
  | '\n' :: rest | '\r' :: '\n' :: rest => some rest
  | _ => none

def isBareKeyChar (c : Char) : Bool := c.isAlphanum || c = '_' || c = '-'

def keyStep? (cs : List Char) : Option (String × List Char) :=
  match cs with
  | '"' :: rest => (escaped? rest).map fun (key, rest) => (.ofList key, rest)
  | '\'' :: rest => (literal? rest).map fun (key, rest) => (.ofList key, rest)
  | _ =>
    match cs.span isBareKeyChar with
    | ([], _) => none
    | (key, rest) => some (.ofList key, rest)

/-- A key of at most `limit` steps, split into the steps on the way and the last one. Blanks around
it are skipped. -/
def steps? : Nat → List Char → Option ((List String × String) × List Char)
  | 0, _ => none
  | limit + 1, cs => do
    let (step, rest) ← keyStep? (skipSpace cs)
    match skipSpace rest with
    | '.' :: rest =>
      let ((path, key), rest) ← steps? limit rest
      some ((step :: path, key), rest)
    | rest => some (([], step), rest)

def key? (cs : List Char) : Option ((List String × String) × List Char) := steps? maxDepth cs

def isWordChar (c : Char) : Bool := c ∉ "=,[]\x7b\x7d#'\" \t\r\n".toList

/-- A value without quotes. A date and a time may have one blank between them. -/
def word? (cs : List Char) : Option (Scalar × List Char) :=
  let (word, rest) := cs.span isWordChar
  let (word, rest) :=
    match rest with
    | ' ' :: c :: time =>
      if (Date.read? word matches some (_, [])) && c.isDigit then
        let (time, rest) := (c :: time).span isWordChar
        (word ++ ' ' :: time, rest)
      else (word, rest)
    | _ => (word, rest)
  (scalar? word).map (·, rest)

mutual

/-- A value, inside of which `depth` more levels may be opened. -/
def value? : Nat → Nat → List Char → Option (Node × List Char)
  | 0, _, _ => none
  | fuel + 1, depth, cs =>
    match cs, depth with
    | '"' :: _, _ | '\'' :: _, _ =>
      (quoted? cs).map fun (text, rest) => (.scalar (.text (.ofList text)), rest)
    | '[' :: rest, depth + 1 =>
      (items? fuel depth rest).map fun (items, rest) => (.array items, rest)
    | '\x7b' :: rest, depth + 1 =>
      (pairs? fuel depth [] rest).map fun (entries, rest) => (.table .inline entries, rest)
    | _, _ => (word? cs).map fun (scalar, rest) => (.scalar scalar, rest)

def items? : Nat → Nat → List Char → Option (List Node × List Char)
  | 0, _, _ => none
  | fuel + 1, depth, cs => do
    match ← skipBlank? fuel cs with
    | ']' :: rest => some ([], rest)
    | rest =>
      let (item, rest) ← value? fuel depth rest
      match ← skipBlank? fuel rest with
      | ',' :: rest =>
        let (items, rest) ← items? fuel depth rest
        some (item :: items, rest)
      | ']' :: rest => some ([item], rest)
      | _ => none

def pairs? : Nat → Nat → Entries → List Char → Option (Entries × List Char)
  | 0, _, _, _ => none
  | fuel + 1, depth, entries, cs => do
    match ← skipBlank? fuel cs with
    | '\x7d' :: rest => some (entries, rest)
    | rest =>
      let ((path, key), rest) ← key? rest
      let rest ← skipBlank? fuel rest >>= expect? '=' >>= skipBlank? fuel
      let (node, rest) ← value? fuel depth rest
      let entries ← Entries.insert path key node .defined entries
      match ← skipBlank? fuel rest with
      | ',' :: rest => pairs? fuel depth entries rest
      | '\x7d' :: rest => some (entries, rest)
      | _ => none

end

namespace Document

/-- A document that was read up to some line: the table it is, and the path to the table that the
last header opened. -/
structure State where
  entries : Entries := []
  header : List String := []

/-- A header with a single or a double bracket, read behind its opening bracket. -/
def header? (s : State) (cs : List Char) : Option (State × List Char) :=
  match cs with
  | '[' :: rest => do
    let ((path, key), rest) ← key? rest
    let rest ← expect? ']' rest >>= expect? ']'
    let entries ← Entries.openNext path key s.entries
    some (⟨entries, path ++ [key]⟩, rest)
  | _ => do
    let ((path, key), rest) ← key? cs
    let rest ← expect? ']' rest
    let entries ← Entries.openTable path key s.entries
    some (⟨entries, path ++ [key]⟩, rest)

def entry? (fuel : Nat) (s : State) (cs : List Char) : Option (State × List Char) := do
  let ((path, key), rest) ← key? cs
  let rest ← expect? '=' rest
  let (node, rest) ← value? fuel maxDepth (skipSpace rest)
  let entries ← Entries.update false (Entries.insert path key node) s.header .defined s.entries
  some ({ s with entries }, rest)

def lines? : Nat → State → List Char → Option Entries
  | 0, _, _ => none
  | fuel + 1, s, cs => do
    match ← skipBlank? (fuel + 1) cs with
    | [] => some s.entries
    | '[' :: rest =>
      let (s, rest) ← header? s rest
      lines? fuel s (← endLine? rest)
    | rest =>
      let (s, rest) ← entry? fuel s rest
      lines? fuel s (← endLine? rest)

/-- Reads a text as a document. A byte order mark at its front is skipped. -/
def read? (text : String) : Option Entries :=
  let cs := match text.toList with
    | '\uFEFF' :: rest => rest
    | cs => cs
  lines? (2 * cs.length + 2) {} cs

end Document

end Precedence.Toml

import Precedence.Shell.State

namespace Precedence.Shell.Question

def isUnary (text : String) : Bool :=
  text ∈ ["-r", "-w", "-x", "-e", "-f", "-d", "-c", "-b", "-p", "-u", "-g", "-k", "-s", "-t", "-z",
    "-n", "-h", "-O", "-G", "-L", "-S"]

def isBinary (text : String) : Bool :=
  text ∈ ["=", "!=", "<", ">", "-eq", "-ne", "-ge", "-gt", "-le", "-lt", "-nt", "-ot", "-ef"]

def operator? : List Bytes → Option String
  | [] => none
  | first :: rest =>
    let text := String.ofList first
    if isUnary text then
      match rest with
      | [] => none
      | [_] => some text
      | second :: _ => if isBinary (.ofList second) then none else some text
    else if text = "(" then if rest.isEmpty then none else some text
    else if isBinary text || text ∈ ["!", "-a", "-o", ")"] then some text
    else none

def number (cs : Bytes) : Except String Int :=
  match Number.whole? false cs with
  | some n => .ok n
  | none => .error ("Illegal number: " ++ String.ofList cs)

def ofFile (s : State) (letter : String) (path : Bytes) : Bool :=
  let files := s.world.files
  match files.find s.place path (letter ≠ "-h" && letter ≠ "-L") with
  | .error _ => false
  | .ok n =>
    let file : Option File := match (files.get n).node with
      | .device (.descriptor d) => (s.stream? d).map fun found => files.get found.2.file
      | _ => some (files.get n)
    match file with
    | none => false
    | some file =>
      match letter with
      | "-f" => file.isRegular
      | "-d" => file.isDirectory
      | "-h" | "-L" => file.isLink
      | "-s" => file.isDirectory || !file.contents.isEmpty
      | "-x" => file.isDirectory || file.mode &&& 0o111 ≠ 0
      | "-u" => file.mode &&& 0o4000 ≠ 0
      | "-g" => file.mode &&& 0o2000 ≠ 0
      | "-k" => file.mode &&& 0o1000 ≠ 0
      | "-c" => match file.node with
        | .device _ => true
        | _ => false
      | "-p" => match file.node with
        | .channel _ => true
        | _ => false
      | "-b" | "-S" => false
      | _ => true

def unary (s : State) (operator : String) (operand : Bytes) : Except String Bool :=
  match operator with
  | "-z" => .ok operand.isEmpty
  | "-n" => .ok !operand.isEmpty
  | "-t" => (number operand).map fun _ => false
  | _ => .ok (ofFile s operator operand)

def file? (s : State) (path : Bytes) : Option (Nat × Nat) :=
  (s.world.files.find s.place path).toOption.map fun n => (n, (s.world.files.get n).changed)

def binary (s : State) (operator : String) (a b : Bytes) : Except String Bool := do
  match operator with
  | "=" => return a = b
  | "!=" => return a ≠ b
  | "<" => return decide (a < b)
  | ">" => return decide (b < a)
  | "-eq" => return (← number a) = (← number b)
  | "-ne" => return (← number a) ≠ (← number b)
  | "-ge" => return (← number a) ≥ (← number b)
  | "-gt" => return (← number a) > (← number b)
  | "-le" => return (← number a) ≤ (← number b)
  | "-lt" => return (← number a) < (← number b)
  | "-nt" =>
    match file? s a, file? s b with
    | some (_, first), some (_, second) => return second < first
    | some _, none => return true
    | _, _ => return false
  | "-ot" =>
    match file? s a, file? s b with
    | some (_, first), some (_, second) => return first < second
    | none, some _ => return true
    | _, _ => return false
  | _ =>
    match file? s a, file? s b with
    | some (first, _), some (second, _) => return first = second
    | _, _ => return false

mutual

/-- Questions joined by `-o`. As all readers of questions, it takes words and gives the answer with
the words from the last one that it has used. -/
def anyOf (s : State) : Nat → Bool → List Bytes → Except String (Bool × List Bytes)
  | 0, _, words => .ok (false, words)
  | fuel + 1, plain, words => do
    let (answer, words) ← allOf s fuel plain words
    if operator? (words.drop 1) = some "-o" then
      let (other, words) ← anyOf s fuel false (words.drop 2)
      return (answer || other, words)
    else return (answer, words)

/-- Questions joined by `-a`. -/
def allOf (s : State) : Nat → Bool → List Bytes → Except String (Bool × List Bytes)
  | 0, _, words => .ok (false, words)
  | fuel + 1, plain, words => do
    let (answer, words) ← negated s fuel plain words
    if operator? (words.drop 1) = some "-a" then
      let (other, words) ← allOf s fuel false (words.drop 2)
      return (answer && other, words)
    else return (answer, words)

def negated (s : State) : Nat → Bool → List Bytes → Except String (Bool × List Bytes)
  | 0, _, words => .ok (false, words)
  | fuel + 1, plain, words => do
    if !plain && operator? words = some "!" then
      match words with
      | [_] => return (true, words)
      | _ =>
        let (answer, words) ← negated s fuel false (words.drop 1)
        return (!answer, words)
    else primary s fuel plain words

/-- One question. With `plain`, it starts with an operand. -/
def primary (s : State) : Nat → Bool → List Bytes → Except String (Bool × List Bytes)
  | 0, _, words => .ok (false, words)
  | _ + 1, _, [] => .ok (false, [])
  | fuel + 1, plain, first :: rest => do
    let operator := if plain then none else operator? (first :: rest)
    if operator = some "(" then
      if operator? rest = some ")" then return (false, rest)
      let (answer, words) ← anyOf s fuel false rest
      if operator? (words.drop 1) = some ")" then return (answer, words.drop 1)
      else .error "closing paren expected"
    else
      match operator.filter isUnary, rest with
      | some text, [] => .error (text ++ ": argument expected")
      | some text, operand :: _ => return (← unary s text operand, rest)
      | none, _ =>
        match (operator? rest).filter isBinary, rest.drop 1 with
        | some text, [] => .error (text ++ ": argument expected")
        | some text, second :: more => return (← binary s text first second, second :: more)
        | none, _ => return (!first.isEmpty, first :: rest)

end

/-- The answer to the question that words stand for, or what is wrong with them. -/
def answer (s : State) : List Bytes → Except String Bool
  | [] => .ok false
  | words => do
    let binary :=
      words.length = 3 && ((words[1]?).map fun word => isBinary (.ofList word)) = some true
    let ask (plain : Bool) (words : List Bytes) : Except String Bool := do
      let (answer, rest) ← anyOf s (4 * words.length + 8) plain words
      match rest with
      | first :: _ :: _ =>
        .error (if first.isEmpty then "unexpected operator"
          else String.ofList first ++ ": unexpected operator")
      | _ => return answer
    if binary then ask true words
    else
      match words, words.length = 3 || words.length = 4 with
      | first :: rest, true =>
        if first = ['('] && words.getLast? = some [')'] then ask false rest.dropLast
        else if first = ['!'] then return !(← answer s rest)
        else ask false words
      | _, _ => ask false words

end Precedence.Shell.Question

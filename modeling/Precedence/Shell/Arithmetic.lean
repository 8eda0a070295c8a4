import Precedence.Shell.Command

namespace Precedence.Shell.Arithmetic

inductive Failure where
  | expecting (what : String)
  | divisionByZero
  /-- The value of a variable is no number. -/
  | illegal (text : Bytes)
  /-- The least number has no quotient by minus one. -/
  | trap

inductive Token where
  | number (n : Int)
  | name (cs : Bytes)
  | operator (text : String)
  | unknown
  | finish
deriving DecidableEq

/-- The operators, longer ones before those that they start with. -/
def operators : List String :=
  ["<<=", ">>=", "*=", "/=", "%=", "+=", "-=", "&=", "^=", "|=", "||", "&&", "==", "!=", "<<", ">>",
    "<=", ">=", "=", "?", ":", "(", ")", "|", "^", "&", "<", ">", "+", "-", "*", "/", "%", "!", "~"]

def token (cs : Bytes) : Token × Bytes :=
  match cs.dropWhile fun c => c = ' ' || c = '\t' || c = '\n' with
  | [] => (.finish, [])
  | c :: rest =>
    if c.isDigit then
      match Number.unsigned? true (c :: rest) with
      | some (n, rest) => (.number (Number.clip n), rest)
      | none => (.unknown, rest)
    else if isNameChar c then
      let (word, rest) := (c :: rest).span isNameChar
      (.name word, rest)
    else
      match operators.find? fun text => text.toList.isPrefixOf (c :: rest) with
      | some text => (.operator text, (c :: rest).drop text.length)
      | none => (.unknown, rest)

/-- The operators between two operands, and how tightly each binds. -/
def strength? : Token → Option Nat
  | .operator text =>
    match text with
    | "|" => some 1
    | "^" => some 2
    | "&" => some 3
    | "==" | "!=" => some 4
    | "<" | ">" | "<=" | ">=" => some 5
    | "<<" | ">>" => some 6
    | "+" | "-" => some 7
    | "*" | "/" | "%" => some 8
    | _ => none
  | _ => none

def truth (b : Bool) : Int := if b then 1 else 0

def word (n : Int) : BitVec 64 := BitVec.ofInt 64 n

def combine (operator : String) (a b : Int) : Except Failure Int :=
  match operator with
  | "==" => .ok (truth (a = b))
  | "!=" => .ok (truth (a ≠ b))
  | "<=" => .ok (truth (a ≤ b))
  | ">=" => .ok (truth (a ≥ b))
  | "<" => .ok (truth (a < b))
  | ">" => .ok (truth (a > b))
  | "|" => .ok (word a ||| word b).toInt
  | "^" => .ok (word a ^^^ word b).toInt
  | "&" => .ok (word a &&& word b).toInt
  | "<<" => .ok (word a <<< (b % 64).toNat).toInt
  | ">>" => .ok ((word a).sshiftRight (b % 64).toNat).toInt
  | "+" => .ok (Number.wrap (a + b))
  | "-" => .ok (Number.wrap (a - b))
  | "*" => .ok (Number.wrap (a * b))
  | "/" | "%" =>
    if b = 0 then .error .divisionByZero
    else if a = Number.least ∧ b = -1 then .error .trap
    else .ok (if operator = "/" then a.tdiv b else a.tmod b)
  | _ => .error (.expecting "primary")

/-- What an evaluation has come to: the next token, the text behind it, and what was assigned, the
latest first. -/
structure Place where
  next : Token
  rest : Bytes
  assigned : List (Bytes × Int) := []

abbrev Eval := StateT Place (Except Failure)

def fail {α : Type} (failure : Failure) : Eval α := fun _ => .error failure

def advance : Eval Unit := modify fun p => let (next, rest) := token p.rest; { p with next, rest }

def expect (text : String) : Eval Unit := do
  if (← get).next = .operator text then advance
  else fail (.expecting (if text = ":" then "':'" else "')'"))

def valueOf (value : Bytes → Option Bytes) (name : Bytes) : Eval Int := do
  match (← get).assigned.lookup name with
  | some n => return n
  | none =>
    match value name with
    | none => return 0
    | some text =>
      if text.all Number.isBlank then return 0
      match Number.whole? true text with
      | some n => return n
      | none => fail (.illegal text)

def assignment? : Token → Option String
  | .operator text =>
    if text ∈ ["=", "*=", "/=", "%=", "+=", "-=", "<<=", ">>=", "&=", "^=", "|="] then
      some (String.ofList text.toList.dropLast)
    else none
  | _ => none

mutual

/-- An operand. With `live`, it is evaluated. -/
def primary (value : Bytes → Option Bytes) : Nat → Bool → Eval Int
  | 0, _ => fail (.expecting "primary")
  | fuel + 1, live => do
    let start := (← get).next
    match start with
    | .number n => advance; return n
    | .name cs => advance; if live then valueOf value cs else return 0
    | .operator "(" =>
      advance
      let n ← assignment value fuel live
      expect ")"
      return n
    | .operator "+" => advance; primary value fuel live
    | .operator "-" => advance; return Number.wrap (-(← primary value fuel live))
    | .operator "!" => advance; return truth ((← primary value fuel live) = 0)
    | .operator "~" => advance; return -(← primary value fuel live) - 1
    | _ => fail (.expecting "primary")

/-- What an operand becomes with the operators behind it that bind tighter than `strength`. -/
def further (value : Bytes → Option Bytes) : Nat → Bool → Nat → Int → Eval Int
  | 0, _, _, n => return n
  | fuel + 1, live, strength, first => do
    let operator := (← get).next
    match operator, strength? operator with
    | .operator text, some binding =>
      if strength < binding then
        advance
        let second ← primary value fuel live
        let second ← further value fuel live binding second
        let n ← if live then
            match combine text first second with
            | .ok n => pure n
            | .error failure => fail failure
          else pure second
        further value fuel live strength n
      else return first
    | _, _ => return first

/-- Operands between `&&`. -/
def conjunction (value : Bytes → Option Bytes) : Nat → Bool → Eval Int
  | 0, _ => fail (.expecting "primary")
  | fuel + 1, live => do
    let first ← primary value fuel live
    let first ← further value fuel live 0 first
    if (← get).next = .operator "&&" then
      advance
      let second ← conjunction value fuel (live && first ≠ 0)
      return truth (first ≠ 0 && second ≠ 0)
    else return first

/-- Operands between `||`. -/
def disjunction (value : Bytes → Option Bytes) : Nat → Bool → Eval Int
  | 0, _ => fail (.expecting "primary")
  | fuel + 1, live => do
    let first ← conjunction value fuel live
    if (← get).next = .operator "||" then
      advance
      let second ← disjunction value fuel (live && first = 0)
      return truth (first ≠ 0 || second ≠ 0)
    else return first

def choice (value : Bytes → Option Bytes) : Nat → Bool → Eval Int
  | 0, _ => fail (.expecting "primary")
  | fuel + 1, live => do
    let condition ← disjunction value fuel live
    if (← get).next = .operator "?" then
      advance
      let yes ← assignment value fuel (live && condition ≠ 0)
      expect ":"
      let no ← choice value fuel (live && condition = 0)
      return if condition ≠ 0 then yes else no
    else return condition

def assignment (value : Bytes → Option Bytes) : Nat → Bool → Eval Int
  | 0, _ => fail (.expecting "primary")
  | fuel + 1, live => do
    let p ← get
    match p.next, assignment? (token p.rest).1 with
    | .name name, some operator =>
      advance
      advance
      let right ← assignment value fuel live
      if live then
        let n ← if operator.isEmpty then pure right
          else
            match combine operator (← valueOf value name) right with
            | .ok n => pure n
            | .error failure => fail failure
        modify fun p => { p with assigned := (name, n) :: p.assigned }
        return n
      else return right
    | _, _ => choice value fuel live

end

/-- The value of an expression, given the values of the variables, and what it assigns, in order. -/
def evaluate (value : Bytes → Option Bytes) (cs : Bytes) :
    Except Failure (Int × List (Bytes × Int)) := do
  let (next, rest) := token cs
  let (n, p) ← assignment value (8 * cs.length + 8) true ⟨next, rest, []⟩
  if p.next = .finish then return (n, p.assigned.reverse) else .error (.expecting "EOF")

end Precedence.Shell.Arithmetic

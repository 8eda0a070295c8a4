import Precedence.Shell.Tool.Awk.Token
/-!
# The reading of programs for records

Expressions bind the tighter the later their operators stand here: `? :`, `||`, `&&`, `in`, `~`,
comparisons, joined texts, sums, products, signs, powers, steps. In the arguments of `print`, `>`
names a file.
-/

namespace Precedence.Shell.Tool.Awk

abbrev Reader := StateT (List (Token × Nat)) (Except String)

namespace Reader

def unended : String := "unexpected end of program"

def peek : Reader (Option Token) := return (← get).head?.map Prod.fst

def advance (n : Nat := 1) : Reader Unit := modify fun tokens => tokens.drop n

def isNext (text : String) : Reader Bool := return (← peek) == some (.sign text)

def isNextWord (word : String) : Reader Bool := return (← peek) == some (.keyword word)

def accept (text : String) : Reader Bool := do
  let found ← isNext text
  if found then advance
  return found

def mistake {α : Type} : Reader α := do
  match ← get with
  | (.sign ")", line) :: _ => throw s!"line {line}: extra ')'"
  | (.sign "\x7d", line) :: _ => throw s!"line {line}: syntax error at or near \x7d"
  | (token, line) :: _ => throw s!"line {line}: syntax error at or near {token.shown}"
  | [] => throw unended

def expect (text : String) : Reader Unit := do
  if !(← accept text) then mistake

def skipLines : Reader Unit :=
  modify fun tokens => tokens.dropWhile fun (token, _) => token == .newline

/-- Goes on behind what may stand between two statements. -/
def skipEnds : Reader Unit :=
  modify fun tokens => tokens.dropWhile fun (token, _) => token == .newline || token == .sign ";"

def operator? (token : Token) (inPrint : Bool) : Nat → Option Operator
  | 4 =>
    match token with
    | .sign "<" => some .less
    | .sign "<=" => some .atMost
    | .sign "==" => some .equal
    | .sign "!=" => some .unequal
    | .sign ">" => if inPrint then none else some .more
    | .sign ">=" => some .atLeast
    | _ => none
  | 6 =>
    match token with
    | .sign "+" => some .add
    | .sign "-" => some .subtract
    | _ => none
  | 7 =>
    match token with
    | .sign "*" => some .multiply
    | .sign "/" => some .divide
    | .sign "%" => some .remainder
    | _ => none
  | _ => none

def assignment? : Token → Option (Option Operator)
  | .sign "=" => some none
  | .sign "+=" => some (some .add)
  | .sign "-=" => some (some .subtract)
  | .sign "*=" => some (some .multiply)
  | .sign "/=" => some (some .divide)
  | .sign "%=" => some (some .remainder)
  | .sign "^=" => some (some .power)
  | _ => none

/-- Whether a token can start a value that is joined to the one in front. -/
def startsJoined : Token → Bool
  | .number _ | .text _ | .regex _ | .name _ | .called _ | .standard _ => true
  | .sign text => text ∈ ["$", "!", "(", "++", "--"]
  | _ => false

def isPlace : Expr → Bool
  | .named _ | .element .. | .field _ => true
  | _ => false

/-- Whether the next tokens are a list in brackets behind which a statement or its target starts. -/
def isWholeList : Nat → List (Token × Nat) → Bool
  | _, [] => false
  | depth, (token, _) :: rest =>
    match token with
    | .called _ => isWholeList depth rest
    | .sign "(" => isWholeList (depth + 1) rest
    | .sign ")" =>
      if depth = 1 then
        match rest.head?.map Prod.fst with
        | none | some .newline => true
        | some (.sign text) => text ∈ [";", "\x7d", ">", ">>", "|"]
        | _ => false
      else isWholeList (depth - 1) rest
    | _ => isWholeList depth rest

mutual

def expression : Nat → Bool → Reader Expr
  | 0, _ => mistake
  | fuel + 1, inPrint => do
    let condition ← operation fuel inPrint 0
    if ← accept "?" then
      skipLines
      let first ← expression fuel inPrint
      skipLines
      expect ":"
      skipLines
      return .choice condition first (← expression fuel inPrint)
    else return condition

/-- An expression whose operators bind at least as tight as those of a level. -/
def operation : Nat → Bool → Nat → Reader Expr
  | 0, _, _ => mistake
  | fuel + 1, inPrint, level => do
    if level < 8 then operations fuel inPrint level (← operation fuel inPrint (level + 1))
    else
      match ← peek with
      | some (.sign "!") => advance; return .not (← operation fuel inPrint 8)
      | some (.sign "-") => advance; return .negate (← operation fuel inPrint 8)
      | some (.sign "+") => advance; return .plus (← operation fuel inPrint 8)
      | _ =>
        let base ← stepped fuel inPrint
        if ← accept "^" then
          return .binary .power base (← operation fuel inPrint 8)
        else return base

/-- Goes on behind an expression with the operators of a level. -/
def operations : Nat → Bool → Nat → Expr → Reader Expr
  | 0, _, _, _ => mistake
  | fuel + 1, inPrint, level, first => do
    let some token ← peek | return first
    match level, token with
    | 0, .sign "||" =>
      advance
      skipLines
      operations fuel inPrint level (.either first (← operation fuel inPrint (level + 1)))
    | 1, .sign "&&" =>
      advance
      skipLines
      operations fuel inPrint level (.both first (← operation fuel inPrint (level + 1)))
    | 2, .keyword "in" =>
      advance
      match ← peek with
      | some (.name array) =>
        advance
        operations fuel inPrint level (.contains [first] array)
      | _ => mistake
    | 3, .sign "~" =>
      advance
      operations fuel inPrint level (.accepts first (← operation fuel inPrint (level + 1)))
    | 3, .sign "!~" =>
      advance
      operations fuel inPrint level (.not (.accepts first (← operation fuel inPrint (level + 1))))
    | 4, .sign "|" =>
      match (← get)[1]?.map Prod.fst with
      | some (.keyword "getline") =>
        advance 2
        operations fuel inPrint level (.getline (.command first) (← place? fuel))
      | _ => return first
    | 5, token =>
      if startsJoined token then
        operations fuel inPrint level (.binary .join first (← operation fuel inPrint (level + 1)))
      else return first
    | level, token =>
      match operator? token inPrint level with
      | some op =>
        advance
        operations fuel inPrint level (.binary op first (← operation fuel inPrint (level + 1)))
      | none => return first

/-- A value, which may be stepped behind it or assigned to. -/
def stepped : Nat → Bool → Reader Expr
  | 0, _ => mistake
  | fuel + 1, inPrint => do
    let value ← primary fuel inPrint
    if !isPlace value then return value
    let some token ← peek | return value
    match token with
    | .sign "++" => advance; return .step value 1 false
    | .sign "--" => advance; return .step value (-1) false
    | token =>
      match assignment? token with
      | some op =>
        advance
        skipLines
        return .assign value op (← expression fuel inPrint)
      | none => return value

def primary : Nat → Bool → Reader Expr
  | 0, _ => mistake
  | fuel + 1, inPrint => do
    let some token ← peek | mistake
    let stepBefore (change : Float) : Reader Expr := do
      advance
      let value ← primary fuel inPrint
      if isPlace value then return .step value change true else mistake
    match token with
    | .number value => advance; return .number value
    | .text value => advance; return .text value
    | .regex source => advance; return .regex source
    | .sign "++" => stepBefore 1
    | .sign "--" => stepBefore (-1)
    | .sign "$" =>
      advance
      match ← peek with
      | some (.sign "-") => advance; return .field (.negate (← primary fuel inPrint))
      | _ => return .field (← primary fuel inPrint)
    | .sign "-" => advance; return .negate (← primary fuel inPrint)
    | .sign "+" => advance; return .plus (← primary fuel inPrint)
    | .sign "!" => advance; return .not (← primary fuel inPrint)
    | .sign "(" =>
      advance
      skipLines
      let values ← list fuel
      skipLines
      expect ")"
      match values, ← isNextWord "in" with
      | [value], false => return value
      | values, true =>
        advance
        match ← peek with
        | some (.name array) => advance; return .contains values array
        | _ => mistake
      | _, false => mistake
    | .name name =>
      advance
      if ← accept "[" then
        let index ← list fuel
        expect "]"
        return .element name index
      else return .named name
    | .called name =>
      advance 2
      skipLines
      let arguments ← if ← isNext ")" then pure [] else list fuel
      skipLines
      expect ")"
      return .call name arguments
    | .standard name =>
      advance
      if ← accept "(" then
        skipLines
        let arguments ← if ← isNext ")" then pure [] else list fuel
        skipLines
        expect ")"
        return .standard name arguments
      else if name = "length" then return .standard name []
      else mistake
    | .keyword "getline" =>
      advance
      let place ← place? fuel
      if ← accept "<" then return .getline (.file (← primary fuel inPrint)) place
      else return .getline .records place
    | _ => mistake

def place? : Nat → Reader (Option Expr)
  | 0 => mistake
  | fuel + 1 => do
    match ← peek with
    | some (.name _) | some (.sign "$") => return some (← primary fuel false)
    | _ => return none

def list : Nat → Reader (List Expr)
  | 0 => mistake
  | fuel + 1 => do
    let first ← expression fuel false
    if ← accept "," then
      skipLines
      return first :: (← list fuel)
    else return [first]

end

/-- Expressions without brackets around them, with commas between them. -/
def openList (fuel : Nat) : Nat → Reader (List Expr)
  | 0 => mistake
  | n + 1 => do
    let first ← expression fuel true
    if ← accept "," then
      skipLines
      return first :: (← openList fuel n)
    else return [first]

/-- The arguments of `print` and the place that they go to. -/
def printed (fuel : Nat) : Reader (List Expr × Target Expr) := do
  let tokens ← get
  let arguments ← match tokens.head?.map Prod.fst with
    | none | some .newline | some (.sign ";") | some (.sign "\x7d") => pure []
    | some (.sign ">") | some (.sign ">>") | some (.sign "|") => pure []
    | some (.sign "(") =>
      if isWholeList 0 tokens then do
        advance
        skipLines
        let arguments ← list fuel
        skipLines
        expect ")"
        pure arguments
      else openList fuel fuel
    | _ => openList fuel fuel
  if ← accept ">" then return (arguments, .file false (← expression fuel true))
  else if ← accept ">>" then return (arguments, .file true (← expression fuel true))
  else if ← accept "|" then return (arguments, .command (← expression fuel true))
  else return (arguments, .output)

def finished : Reader Unit := do
  match ← peek with
  | none | some (.sign "\x7d") => pure ()
  | some .newline => skipLines
  | some (.sign ";") =>
    advance
    skipLines
  | _ => mistake

def isEnd : Reader Bool := do
  match ← peek with
  | none | some .newline | some (.sign ";") | some (.sign "\x7d") => return true
  | _ => return false

def simple (fuel : Nat) : Reader Statement := do
  match ← peek with
  | some (.keyword "print") =>
    advance
    let (arguments, target) ← printed fuel
    return .print arguments target
  | some (.keyword "printf") =>
    advance
    let (arguments, target) ← printed fuel
    if arguments.isEmpty then mistake
    return .printf arguments target
  | some (.keyword "delete") =>
    advance
    match ← peek with
    | some (.name array) =>
      advance
      if ← accept "[" then
        let index ← list fuel
        expect "]"
        return .delete array (some index)
      else return .delete array none
    | _ => mistake
  | _ => return .value (← expression fuel false)

mutual

def statement : Nat → Reader Statement
  | 0 => mistake
  | fuel + 1 => do
    match ← peek with
    | some (.sign "\x7b") => block fuel
    | some (.sign ";") =>
      advance
      skipLines
      return .nothing
    | some (.keyword "if") =>
      advance
      let condition ← condition fuel
      let first ← statement fuel
      let before ← get
      skipEnds
      if ← isNextWord "else" then
        advance
        skipLines
        return .branch condition first (← statement fuel)
      else
        set before
        return .branch condition first .nothing
    | some (.keyword "while") =>
      advance
      let condition ← condition fuel
      return .loop false (some condition) .nothing (← statement fuel)
    | some (.keyword "do") =>
      advance
      skipLines
      let body ← statement fuel
      skipEnds
      if !(← isNextWord "while") then mistake
      advance
      expect "("
      let condition ← expression fuel false
      expect ")"
      finished
      return .loop true (some condition) .nothing body
    | some (.keyword "for") =>
      advance
      match (← get).map Prod.fst with
      | .sign "(" :: .name name :: .keyword "in" :: .name array :: .sign ")" :: _ =>
        advance 5
        skipLines
        return .forKeys name array (← statement fuel)
      | _ =>
        expect "("
        let start ← if ← isNext ";" then pure .nothing else simple fuel
        expect ";"
        skipLines
        let condition ← if ← isNext ";" then pure none else some <$> expression fuel false
        expect ";"
        skipLines
        let step ← if ← isNext ")" then pure .nothing else simple fuel
        expect ")"
        skipLines
        return .chain start (.loop false condition step (← statement fuel))
    | some (.keyword "next") => advance; finished; return .next
    | some (.keyword "nextfile") => advance; finished; return .nextFile
    | some (.keyword "break") => advance; finished; return .leave
    | some (.keyword "continue") => advance; finished; return .again
    | some (.keyword "exit") =>
      advance
      let status ← if ← isEnd then pure none else some <$> expression fuel false
      finished
      return .exit status
    | some (.keyword "return") =>
      advance
      let value ← if ← isEnd then pure none else some <$> expression fuel false
      finished
      return .giveBack value
    | _ =>
      let found ← simple fuel
      finished
      return found

def condition : Nat → Reader Expr
  | 0 => mistake
  | fuel + 1 => do
    expect "("
    let found ← expression fuel false
    expect ")"
    skipLines
    return found

def block : Nat → Reader Statement
  | 0 => mistake
  | fuel + 1 => do
    expect "\x7b"
    skipEnds
    statements fuel

def statements : Nat → Reader Statement
  | 0 => mistake
  | fuel + 1 => do
    match ← peek with
    | some (.sign "\x7d") =>
      advance
      if ← isNext ";" then
        -- A semicolon may stand behind a block.
        match (← get)[1]?.map Prod.fst with
        | some (.keyword "else") => pure ()
        | _ => advance
      skipLines
      return .nothing
    | none => mistake
    | _ =>
      let first ← statement fuel
      skipLines
      return .chain first (← statements fuel)

end

/-- The names of parameters up to the bracket behind them. -/
def parameters : Nat → Reader (List Bytes)
  | 0 => mistake
  | n + 1 => do
    skipLines
    match ← peek with
    | some (.sign ")") => advance; return []
    | some (.name name) =>
      advance
      let _ ← accept ","
      return name :: (← parameters n)
    | _ => mistake

def rules (fuel : Nat) : Nat → Program → Reader Program
  | 0, program => return program
  | n + 1, program => do
    skipEnds
    let action? : Reader (Option Statement) := do
      if ← isNext "\x7b" then some <$> block fuel else return none
    let rule (selection : Selection) (action : Option Statement) : Program :=
      { program with rules := program.rules ++ [⟨selection, action⟩] }
    match ← peek with
    | none => return program
    | some (.keyword "BEGIN") =>
      advance
      rules fuel n (rule .start (some (← block fuel)))
    | some (.keyword "END") =>
      advance
      rules fuel n (rule .finish (some (← block fuel)))
    | some (.keyword "function") =>
      advance
      match ← peek with
      | some (.name name) | some (.called name) =>
        advance
        expect "("
        let names ← parameters (← get).length
        skipLines
        let body ← block fuel
        rules fuel n { program with functions := (name, ⟨names, body⟩) :: program.functions }
      | _ => mistake
    | some (.sign "\x7b") => rules fuel n (rule .every (← action?))
    | _ =>
      let first ← expression fuel false
      if ← accept "," then
        skipLines
        let last ← expression fuel false
        rules fuel n (rule (.range first last) (← action?))
      else rules fuel n (rule (.when first) (← action?))

end Reader

def unclosed (last : Nat) (found : List Token) : String :=
  let count (text : String) : Nat := found.count (.sign text)
  let bracket := s!"line {last}: missing ) near end of line"
  let brace := s!"line {last + 1}: missing \x7d near end of file"
  if count ")" < count "(" then
    if count "\x7d" < count "\x7b" then bracket ++ "\nawk: " ++ brace else bracket
  else brace

def Program.parse (text : Bytes) : Except String Program := do
  let found ← tokens (text.length + 1) 1 false text
  let last := text.count '\n' + 1
  match (Reader.rules (40 * found.length + 100) (found.length + 1) {}).run found with
  | .error mistake =>
    .error (if mistake = Reader.unended then unclosed last (found.map Prod.fst) else mistake)
  | .ok (program, _) =>
    let missing := found.findSome? fun (token, _) => match token with
      | .called name => if (program.functions.lookup name).isNone then some name else none
      | _ => none
    match missing with
    | some name => .error s!"line {last + 1}: function {String.ofList name} never defined"
    | none => return program

end Precedence.Shell.Tool.Awk

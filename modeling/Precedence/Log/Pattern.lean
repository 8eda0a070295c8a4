import Precedence.Text.Alphanumeric
import Precedence.Text.Blank
/-!
# Patterns for the values of fields

A filter may ask for the value of a field, by a number or by a pattern. Values are not compared
here, but a filter with a malformed pattern is no filter: `Pattern.isValid` tells whether a text is
a pattern that can be compiled. Compiled patterns know no classes of letters beyond ASCII, so a
pattern that folds case, asks for a kind of character or for the edge of a word is refused unless it
gives up on characters beyond ASCII first. A value holds no closing brace, so nothing that a brace
opens is ever complete.

Readers take a pattern from their place on and give what follows.
-/

namespace Precedence.Pattern

structure Modes where
  spaced : Bool := false
  wide : Bool := true
  folding : Bool := false
deriving DecidableEq, Repr

def skip (m : Modes) (cs : List Char) : List Char :=
  if m.spaced then blanks cs else cs
where
  blanks : List Char → List Char
    | [] => []
    | '#' :: rest => comment rest
    | c :: rest => if Text.isBlank c then blanks rest else c :: rest
  comment : List Char → List Char
    | [] => []
    | '\n' :: rest => blanks rest
    | _ :: rest => comment rest

def more? : List Char → Option (List Char)
  | [] => none
  | cs => some cs

inductive Item where
  | character (c : Char)
  /-- Digits, blanks or the characters of words, or all others. -/
  | kind (others : Bool)
  /-- A place and not a character. -/
  | place (ofWord : Bool)
deriving DecidableEq, Repr

def hexadecimal? (m : Modes) : Nat → Nat → List Char → Option (Nat × List Char)
  | 0, value, cs => some (value, cs)
  | n + 1, value, cs =>
    match skip m cs with
    | [] => none
    | c :: rest =>
      let c := c.toLower
      if c.isDigit then hexadecimal? m n (value * 16 + (c.toNat - '0'.toNat)) rest
      else if 'a' ≤ c ∧ c ≤ 'f' then hexadecimal? m n (value * 16 + (c.toNat - 'a'.toNat + 10)) rest
      else none

/-- What follows a backslash. -/
def escape? (m : Modes) (cs : List Char) : Option (Item × List Char) :=
  let numbered (n : Nat) (rest : List Char) : Option (Item × List Char) := do
    let (value, rest) ← hexadecimal? m n 0 rest
    if value.isValidChar then some (.character (Char.ofNat value), skip m rest) else none
  match cs with
  | [] => none
  | 'x' :: rest => numbered 2 rest
  | 'u' :: rest => numbered 4 rest
  | 'U' :: rest => numbered 8 rest
  | 'd' :: rest | 's' :: rest | 'w' :: rest => some (.kind false, rest)
  | 'D' :: rest | 'S' :: rest | 'W' :: rest => some (.kind true, rest)
  | 'a' :: rest | 'f' :: rest | 't' :: rest | 'n' :: rest | 'r' :: rest | 'v' :: rest =>
    some (.character '\t', rest)
  | 'A' :: rest | 'z' :: rest => some (.place false, rest)
  | 'b' :: rest | 'B' :: rest | '<' :: rest | '>' :: rest => some (.place true, rest)
  | c :: rest => if c.toNat < 0x80 && !c.isAlphanum then some (.character c, rest) else none

def Item.allowed (m : Modes) : Item → Bool
  | .character c => if m.wide then !m.folding else c.toNat < 0x80
  | .kind others => !m.wide && !others
  | .place ofWord => !(ofWord && m.wide)

/-! ## Classes -/

def classNames : List String :=
  ["alnum", "alpha", "ascii", "blank", "cntrl", "digit", "graph", "lower", "print", "punct",
    "space", "upper", "word", "xdigit"]

/-- A class by its name between brackets and colons, read behind its bracket. Tells whether it is
turned around. -/
def named? (cs : List Char) : Option (Bool × List Char) :=
  match cs with
  | ':' :: rest =>
    let (negated, rest) := match rest with
      | '^' :: rest => (true, rest)
      | _ => (false, rest)
    match rest.span (· ≠ ':') with
    | (name, ':' :: ']' :: rest) =>
      if String.ofList name ∈ classNames then some (negated, rest) else none
    | _ => none
  | _ => none

/-- One end of a range, or a single member. -/
def member? (m : Modes) : List Char → Option (Item × List Char)
  | [] => none
  | '\\' :: rest => escape? m rest
  | c :: rest => some (.character c, rest)

/-- A member, or a range of members: a dash in front of a bracket or of another dash makes none. -/
def range? (m : Modes) (cs : List Char) : Option (List Char) := do
  let (first, rest) ← member? m cs
  let rest ← more? (skip m rest)
  let single : Option (List Char) :=
    if first.allowed m && !(first matches .place _) then some rest else none
  match rest with
  | '-' :: behind =>
    match skip m behind with
    | ']' :: _ | '-' :: _ => single
    | behind =>
      let (last, rest) ← member? m (← more? behind)
      match first, last with
      | .character a, .character b =>
        if a ≤ b && first.allowed m && last.allowed m then some rest else none
      | _, _ => none
  | _ => single

/-- Dashes at the front of a class. Tells whether there are any. -/
def dashes (m : Modes) : List Char → Bool × List Char
  | '-' :: rest => (true, (dashes m rest).2)
  | cs => (false, skip m cs)

/-- What stands at the front of a class: a sign that turns it around, dashes, and a closing bracket
that is a member. -/
def classFront? (m : Modes) (cs : List Char) : Option (List Char) := do
  let cs ← more? (skip m cs)
  let (negated, cs) ← match cs with
    | '^' :: rest => (more? (skip m rest)).map (true, ·)
    | _ => some (false, cs)
  if negated && !m.wide then none
  let (dashed, cs) := dashes m cs
  match cs with
  | [] => none
  | ']' :: rest => if dashed then some cs else more? (skip m rest)
  | _ => some cs

/-- A class from behind its bracket on, inside of which `depth` more are open. -/
def class? (m : Modes) : Nat → Nat → List Char → Option (List Char)
  | 0, _, _ => none
  | fuel + 1, depth, cs => do
    match ← more? (skip m cs) with
    | '[' :: rest =>
      match named? rest with
      | some (negated, rest) =>
        if negated && !m.wide then none else class? m fuel depth rest
      | none => class? m fuel (depth + 1) (← classFront? m rest)
    | ']' :: rest =>
      match depth with
      | 0 => some rest
      | depth + 1 => class? m fuel depth rest
    | '&' :: '&' :: rest | '-' :: '-' :: rest | '~' :: '~' :: rest => class? m fuel depth rest
    | rest => class? m fuel depth (← range? m rest)

/-! ## Groups -/

/-- The switches of a group, up to the character that ends them. No switch stands there twice, and
not more than one dash, which is not the last. -/
def switches? (seen : List Char) (off : Bool) (m : Modes) : List Char → Option (Modes × List Char)
  | [] => none
  | c :: rest =>
    if c = ':' ∨ c = ')' then
      if seen.head? = some '-' then none else some (m, c :: rest)
    else if c ∈ seen then none
    else
      match c with
      | '-' => switches? ('-' :: seen) true m rest
      | 'i' => switches? ('i' :: seen) off { m with folding := !off } rest
      | 'u' => switches? ('u' :: seen) off { m with wide := !off } rest
      | 'x' => switches? ('x' :: seen) off { m with spaced := !off } rest
      | 'm' | 's' | 'U' | 'R' => switches? (c :: seen) off m rest
      | _ => none

def isNameChar (first : Bool) (c : Char) : Bool :=
  if first then c = '_' || (Text.isAlphanumeric c && !c.isDigit)
  else c ∈ "_.[]".toList || Text.isAlphanumeric c

def groupName? (cs : List Char) : Option (List Char × List Char) :=
  match cs.span (· ≠ '>') with
  | (first :: name, '>' :: rest) =>
    if isNameChar true first && name.all (isNameChar false) then some (first :: name, rest)
    else none
  | _ => none

inductive Opening where
  | group (name : Option (List Char)) (inside : Modes)
  /-- Only switches, which hold for what follows. -/
  | switched (after : Modes)

def opening? (m : Modes) (cs : List Char) : Option (Opening × List Char) :=
  match skip m cs with
  | '?' :: '=' :: _ | '?' :: '!' :: _ | '?' :: '<' :: '=' :: _ | '?' :: '<' :: '!' :: _ => none
  | '?' :: 'P' :: '<' :: rest | '?' :: '<' :: rest =>
    (groupName? rest).map fun (name, rest) => (.group (some name) m, rest)
  | '?' :: ')' :: _ => none
  | '?' :: rest =>
    match switches? [] false m rest with
    | some (modes, ')' :: rest) => some (.switched modes, rest)
    | some (modes, _ :: rest) => some (.group none modes, rest)
    | _ => none
  | rest => some (.group none m, rest)

/-- The modes behind each open group, the names that are taken, and whether there is something in
front that can be repeated. -/
structure Place where
  modes : Modes := {}
  outer : List Modes := []
  names : List (List Char) := []
  repeatable : Bool := false

def items : Nat → Place → List Char → Bool
  | 0, _, _ => false
  | fuel + 1, p, cs =>
    let item (item : Item) (rest : List Char) : Bool :=
      item.allowed p.modes && items fuel { p with repeatable := true } rest
    match skip p.modes cs with
    | [] => p.outer.isEmpty
    | '(' :: rest =>
      match opening? p.modes rest with
      | none => false
      | some (.switched modes, rest) => items fuel { p with modes, repeatable := false } rest
      | some (.group name inside, rest) =>
        let taken := name.any (· ∈ p.names)
        !taken && items fuel
          { modes := inside, outer := p.modes :: p.outer, names := name.toList ++ p.names } rest
    | ')' :: rest =>
      match p.outer with
      | [] => false
      | modes :: outer => items fuel { p with modes, outer, repeatable := true } rest
    | '|' :: rest => items fuel { p with repeatable := false } rest
    | '[' :: rest =>
      match classFront? p.modes rest >>= class? p.modes fuel 0 with
      | none => false
      | some rest =>
        !(p.modes.wide && p.modes.folding) && items fuel { p with repeatable := true } rest
    | '?' :: rest | '*' :: rest | '+' :: rest =>
      let rest := match rest with
        | '?' :: rest => rest
        | _ => rest
      p.repeatable && items fuel p rest
    | '\x7b' :: _ => false
    | '\\' :: rest =>
      match escape? p.modes rest with
      | none => false
      | some (found, rest) => item found rest
    | '.' :: rest => p.modes.wide && items fuel { p with repeatable := true } rest
    | '^' :: rest | '$' :: rest => item (.place false) rest
    | c :: rest => item (.character c) rest

def isValid (text : String) : Bool := items (text.length + 1) {} text.toList

def unsigned : List Char → List Char
  | '+' :: rest | '-' :: rest => rest
  | cs => cs

/-- Whether a text is a number, perhaps with a fraction and an exponent. -/
def isNumber (text : String) : Bool :=
  let cs := unsigned text.toList
  let (front, rest) := cs.span Char.isDigit
  let (back, rest) := match rest with
    | '.' :: rest => rest.span Char.isDigit
    | _ => ([], rest)
  String.ofList (cs.map Char.toLower) ∈ ["inf", "infinity", "nan"] ||
    (!(front ++ back).isEmpty &&
      match rest with
      | [] => true
      | mark :: rest =>
        let digits := unsigned rest
        (mark = 'e' || mark = 'E') && !digits.isEmpty && digits.all Char.isDigit)

end Precedence.Pattern

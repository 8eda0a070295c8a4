import Precedence.Shell.Number

namespace Precedence.Shell

structure Mark where
  char : Char
  quoted : Bool
deriving DecidableEq

abbrev Pattern := List Mark

namespace Pattern

/-- Whether a character belongs to a class, which may be unknown. -/
def inClass? (name : String) (c : Char) : Option Bool :=
  let control := c.toNat < 32 || c.toNat = 127
  let ascii := c.toNat < 128
  match name with
  | "alnum" => some c.isAlphanum
  | "alpha" => some c.isAlpha
  | "blank" => some (c = ' ' || c = '\t')
  | "cntrl" => some control
  | "digit" => some c.isDigit
  | "graph" => some (ascii && !control && c ≠ ' ')
  | "lower" => some c.isLower
  | "print" => some (ascii && !control)
  | "punct" => some (ascii && !control && c ≠ ' ' && !c.isAlphanum)
  | "space" => some (Number.isBlank c)
  | "upper" => some c.isUpper
  | "xdigit" => some (Number.digitIn? 16 c).isSome
  | _ => none

/-- A class such as `[:alpha:]` behind its first bracket: whether a character belongs to it, and
what follows. -/
def class? (subject : Char) : Pattern → Option (Bool × Pattern)
  | ⟨':', false⟩ :: rest =>
    let (name, rest) := rest.span fun mark => !mark.quoted && mark.char.isAlpha
    match rest with
    | ⟨':', false⟩ :: ⟨']', false⟩ :: rest =>
      (inClass? (.ofList (name.map Mark.char)) subject).map (·, rest)
    | _ => none
  | _ => none

/-- The members of brackets: whether a character is among them, and what follows the bracket that
closes them, if there is one. A bracket at the `start` is a member. -/
def members (subject : Char) (start : Bool) : Nat → Pattern → Option (Bool × Pattern)
  | 0, _ | _, [] => none
  | fuel + 1, mark :: rest =>
    if mark = ⟨']', false⟩ && !start then some (false, rest)
    else
      let single (low : Char) (rest : Pattern) : Option (Bool × Pattern) :=
        let (found, rest) : Bool × Pattern := match rest with
          | ⟨'-', false⟩ :: ⟨']', false⟩ :: _ => (low = subject, rest)
          | ⟨'-', false⟩ :: ⟨'\\', false⟩ :: high :: rest
          | ⟨'-', false⟩ :: high :: rest =>
            (decide (low ≤ subject ∧ subject ≤ high.char), rest)
          | _ => (low = subject, rest)
        (members subject false fuel rest).map fun (others, rest) => (found || others, rest)
      match mark, rest with
      | ⟨'[', false⟩, rest =>
        match class? subject rest with
        | some (found, rest) =>
          (members subject false fuel rest).map fun (others, rest) => (found || others, rest)
        | none => single '[' rest
      | ⟨'\\', false⟩, next :: rest => single next.char rest
      | _, _ => single mark.char rest

/-- Brackets behind the first one: whether they stand for a character, and what follows. -/
def brackets? (subject : Char) (pattern : Pattern) : Option (Bool × Pattern) :=
  match pattern with
  | ⟨'!', false⟩ :: rest =>
    (members subject true (rest.length + 1) rest).map fun (found, rest) => (!found, rest)
  | _ => members subject true (pattern.length + 1) pattern

def fits : Nat → Pattern → Bytes → Bool
  | 0, _, _ => false
  | _ + 1, [], cs => cs.isEmpty
  | fuel + 1, mark :: rest, cs =>
    match mark.quoted, mark.char, cs with
    | false, '*', [] => fits fuel rest []
    | false, '*', _ :: others => fits fuel rest cs || fits fuel (mark :: rest) others
    | false, '?', _ :: others => fits fuel rest others
    | false, '[', c :: others =>
      match brackets? c rest with
      | some (found, after) => found && fits fuel after others
      | none => c = '[' && fits fuel rest others
    | false, '\\', c :: others =>
      match rest with
      | next :: rest => c = next.char && fits fuel rest others
      | [] => c = '\\' && others.isEmpty
    | _, c, d :: others => c = d && fits fuel rest others
    | _, _, [] => false

def accepts (pattern : Pattern) (cs : Bytes) : Bool :=
  fits (pattern.length + cs.length + 1) pattern cs

/-- Whether the pattern may stand for other texts than itself. -/
def isWild (pattern : Pattern) : Bool :=
  pattern.any fun mark => !mark.quoted && (mark.char = '*' || mark.char = '?' || mark.char = '[')

def text (pattern : Pattern) : Bytes := pattern.map Mark.char

/-- A text without the shortest or the longest part at its start that has the form of the
pattern. -/
def trimStart (pattern : Pattern) (longest : Bool) (cs : Bytes) : Bytes :=
  let cuts := List.range (cs.length + 1)
  let cuts := if longest then cuts.reverse else cuts
  match cuts.find? fun n => pattern.accepts (cs.take n) with
  | some n => cs.drop n
  | none => cs

/-- A text without the shortest or the longest part at its end that has the form of the pattern. -/
def trimEnd (pattern : Pattern) (longest : Bool) (cs : Bytes) : Bytes :=
  let cuts := List.range (cs.length + 1)
  let cuts := if longest then cuts else cuts.reverse
  match cuts.find? fun n => pattern.accepts (cs.drop n) with
  | some n => cs.take n
  | none => cs

end Pattern

end Precedence.Shell

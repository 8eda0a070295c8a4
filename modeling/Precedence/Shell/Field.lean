import Precedence.Shell.Command
import Precedence.Shell.Pattern

namespace Precedence.Shell

inductive Piece where
  /-- A character; where it is `loose`, a separator ends a field. -/
  | char (c : Char) (quoted loose : Bool)
  /-- A quote. -/
  | mark
  /-- The start of a text with separators; in `apart`, only gaps count. -/
  | edge (apart : Bool)
  /-- The place between two parameters, which ends a field; if not `apart`, as a blank does. -/
  | gap (apart : Bool)

namespace Piece

def ofValue (quoted : Bool) (value : Bytes) : List Piece :=
  if quoted then value.map fun c => char c true false
  else edge false :: value.map fun c => char c false true

def ofText (text : Bytes) : List Piece := text.map fun c => char c true false

/-- The characters of pieces, as they stand in a pattern. -/
def pattern (pieces : List Piece) : Pattern := pieces.filterMap fun
  | char c quoted _ => some ⟨c, quoted⟩
  | _ => none

def text (pieces : List Piece) : Bytes := pieces.filterMap fun
  | char c _ _ => some c
  | _ => none

end Piece

structure Splitting where
  field : Pattern := []
  /-- Whether there is a field so far, even if it is empty. -/
  alive : Bool := false
  /-- Whether a blank has ended a field: the blanks that follow, with one other separator among
  them, belong to the same end. -/
  ending : Bool := false
  apart : Bool := false
  fields : List Pattern := []

namespace Splitting

def close (s : Splitting) (ending : Bool) : Splitting :=
  { s with field := [], alive := false, ending, fields := s.field.reverse :: s.fields }

def separate (s : Splitting) (blank : Bool) : Splitting :=
  if s.ending then { s with ending := blank }
  else if blank && !s.alive then s
  else s.close blank

def step (separators : Bytes) (s : Splitting) : Piece → Splitting
  | .char c quoted loose =>
    if loose && !quoted && c ∈ separators then s.separate (c = ' ' || c = '\t' || c = '\n')
    else { s with field := ⟨c, quoted⟩ :: s.field, alive := true, ending := false }
  | .mark => { s with alive := true, ending := false }
  | .edge apart => { s with apart, ending := false }
  | .gap true => s.close false
  | .gap false => s.separate true

end Splitting

def fields (separators : Bytes) (pieces : List Piece) : List Pattern :=
  let s := pieces.foldl (Splitting.step separators) {}
  (if s.alive || s.apart then s.close false else s).fields.reverse

/-- What is known of a line while it falls into fields for variables. -/
structure Sharing where
  fields : List Bytes := []
  field : Bytes := []
  /-- How many characters at the end of the field are separators that may be taken off. -/
  loose : Option Nat := none
  blank : Bool := false
  left : Nat

namespace Sharing

/-- Takes a character of the line; one that is not `plain` separates nothing. -/
def step (separators : Bytes) (s : Sharing) : Char × Bool → Sharing
  | (c, plain) =>
    let isSeparator := plain && c ∈ separators
    let isBlank := isSeparator && (c = ' ' || c = '\t' || c = '\n')
    let keep (s : Sharing) : Sharing := { s with field := c :: s.field }
    if s.left = 0 then
      let loose := s.loose.map (· + 1)
      if isBlank then { keep s with loose := some (loose.getD 1) }
      else
        { keep s with
          loose := if isSeparator && s.blank then loose else none
          blank := false }
    else if s.blank && isSeparator then { s with blank := isBlank }
    else if !isSeparator then { keep s with blank := false }
    else if isBlank && s.field.isEmpty && !s.blank then s
    else if s.left = 1 then { keep s with left := 0, loose := some 1, blank := isBlank }
    else
      { s with
        fields := s.field.reverse :: s.fields
        field := []
        left := s.left - 1
        blank := isBlank }

end Sharing

/-- The fields of a line for so many variables. The last one is what is left, separators and all,
without those at the end that belong to no further field. -/
def shares (separators : Bytes) (n : Nat) (line : List (Char × Bool)) : List Bytes :=
  let s := line.foldl (Sharing.step separators) { left := n }
  let last := s.field.drop (s.loose.getD 0)
  ((if last.isEmpty then [] else [last.reverse]) ++ s.fields).reverse

end Precedence.Shell

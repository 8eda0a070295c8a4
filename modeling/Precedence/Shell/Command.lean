import Precedence.Shell.Number

namespace Precedence.Shell

/-- When a parameter gives way to the word that stands with it. -/
inductive Rule where
  /-- The word stands in for a parameter that is not set. -/
  | useDefault
  /-- As before, and the parameter is set to the word. -/
  | assign
  /-- The word is a complaint about a parameter that is not set. -/
  | complain
  /-- The word stands for a parameter that is set. -/
  | alternative
deriving DecidableEq

inductive Access where
  | read
  | write
  /-- Writes a file also where the shell is told to keep those that there are. -/
  | overwrite
  | append
  | readWrite
deriving DecidableEq

mutual

/-- A part of a word. What stands inside quotes is never split into fields. -/
inductive Part where
  | char (c : Char) (quoted : Bool)
  /-- A quote: the field that it stands in is there even if it is empty. -/
  | mark
  | parameter (name : Bytes) (use : Use) (quoted : Bool)
  | arithmetic (expression : List Part) (quoted : Bool)
  | substitution (body : Command) (quoted : Bool)

inductive Use where
  | value
  | length
  /-- What stands in the braces has no meaning. -/
  | senseless
  /-- With `orEmpty`, an empty parameter counts as one that is not set. -/
  | fallback (rule : Rule) (orEmpty : Bool) (word : List Part)
  /-- Cuts off what has the form of a pattern, at the end or at the start, as much or as little as
  possible. -/
  | trim (atEnd longest : Bool) (pattern : List Part)

inductive Redirect where
  | file (descriptor : Nat) (access : Access) (path : List Part)
  | duplicate (descriptor : Nat) (source : List Part)
  /-- Reads a text of the script, which is known by its number. -/
  | document (descriptor number : Nat)

inductive Command where
  | nothing
  | simple (line : Nat) (assignments words : List (List Part)) (redirects : List Redirect)
  | sequence (first second : Command)
  | andThen (first second : Command)
  | orElse (first second : Command)
  | invert (command : Command)
  | pipeline (commands : List Command)
  | background (command : Command)
  | subshell (line : Nat) (body : Command) (redirects : List Redirect)
  | redirected (line : Nat) (body : Command) (redirects : List Redirect)
  | conditional (condition yes no : Command)
  /-- Repeats the body as long as the condition succeeds, or fails. -/
  | loop (whileFailing : Bool) (condition body : Command)
  | each (line : Nat) (name : Bytes) (words : List (List Part)) (body : Command)
  | choose (line : Nat) (word : List Part) (branches : List (List (List Part) × Command))
  | define (name : Bytes) (body : Command)

end

abbrev Word := List Part

namespace Part

def plain? : Part → Option Char
  | .char c false => some c
  | _ => none

end Part

namespace Word

/-- The text of a word that nothing is quoted or expanded in. -/
def plain? (word : Word) : Option Bytes := word.mapM Part.plain?

/-- The text of a word whose quotes are undone and that nothing is expanded in. -/
def literal (word : Word) : Bytes := word.filterMap fun
  | .char c _ => some c
  | _ => none

end Word

def isNameStart (c : Char) : Bool := c.isAlpha || c = '_'

def isNameChar (c : Char) : Bool := c.isAlphanum || c = '_'

def isName (cs : Bytes) : Bool := (cs.head?.map isNameStart).getD false && cs.all isNameChar

namespace Word

/-- The name and the value of a word that has the form of an assignment. -/
def assignment? (word : Word) : Option (Bytes × Word) :=
  let (front, rest) := word.span fun
    | .char c false => isNameChar c
    | _ => false
  let name := literal front
  match rest with
  | .char '=' false :: value => if isName name then some (name, value) else none
  | _ => none

end Word

end Precedence.Shell

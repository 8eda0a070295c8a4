
namespace Precedence

inductive Trouble where
  | absent
  | notDirectory
  | isDirectory
  | existing
  | notEmpty
  | denied
  | badDescriptor
  | loop
  | invalid
  | noSpace
  | longName
deriving DecidableEq, Repr

namespace Trouble

def text : Trouble → String
  | absent => "No such file or directory"
  | notDirectory => "Not a directory"
  | isDirectory => "Is a directory"
  | existing => "File exists"
  | notEmpty => "Directory not empty"
  | denied => "Permission denied"
  | badDescriptor => "Bad file descriptor"
  | loop => "Too many levels of symbolic links"
  | invalid => "Invalid argument"
  | noSpace => "No space left on device"
  | longName => "File name too long"

def number : Trouble → Nat
  | absent => 2
  | badDescriptor => 9
  | denied => 13
  | existing => 17
  | notDirectory => 20
  | isDirectory => 21
  | invalid => 22
  | noSpace => 28
  | longName => 36
  | notEmpty => 39
  | loop => 40

def report (trouble : Trouble) : String := s!"{trouble.text} (os error {trouble.number})"

end Trouble

end Precedence

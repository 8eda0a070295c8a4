import Precedence.Shell.Pattern
import Precedence.Shell.State

namespace Precedence.Shell.Glob

/-- A part of a pattern between slashes, with the slashes behind it. -/
structure Step where
  name : Pattern
  slashes : Bytes

def steps : Nat → Pattern → List Step
  | 0, _ => []
  | _, [] => []
  | fuel + 1, pattern =>
    let (name, rest) := pattern.span fun mark => mark.char ≠ '/'
    let (slashes, rest) := rest.span fun mark => mark.char = '/'
    ⟨name, slashes.map Mark.char⟩ :: steps fuel rest

/-- The paths that start with `front` and go on in the form of the steps. -/
def paths (files : Files) (place : Nat) (front : Bytes) : List Step → List Bytes
  | [] => if (files.find place front false).toOption.isSome then [front] else []
  | step :: rest =>
    if !step.name.isWild then
      paths files place (front ++ step.name.text ++ step.slashes) rest
    else
      match files.find place (if front.isEmpty then ['.'] else front) with
      | .error _ => []
      | .ok directory =>
        let hidden := (step.name.head?.map Mark.char) = some '.'
        let listed := (if hidden then [['.'], ['.', '.']] else []) ++ files.names directory
        let names := if (files.get directory).isDirectory then listed else []
        (names.filter fun name =>
          (hidden || name.head? ≠ some '.') && step.name.accepts name).flatMap fun name =>
            if rest.isEmpty && step.slashes.isEmpty then [front ++ name]
            else paths files place (front ++ name ++ step.slashes) rest

/-- What a field stands for: the paths that have its form, or itself if there are none. -/
def expand (s : State) (field : Pattern) : List Bytes :=
  if s.option 'f' || !field.isWild then [field.text]
  else
    match paths s.world.files s.place [] (steps (field.length + 1) field) with
    | [] => [field.text]
    | found => found.mergeSort Bytes.le

end Precedence.Shell.Glob

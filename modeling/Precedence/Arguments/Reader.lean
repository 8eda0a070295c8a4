import Precedence.Arguments
import Precedence.Text.Count
/-!
# Reading the command line

The program takes three options with a value, a switch, and two requests for a text. A value
follows its option as the next word, unless that word starts with a dash, or stands behind an equals
sign. A value is looked at when the next option or the end has been reached, so an unknown word
behind a bad value is what gets reported.
-/

namespace Precedence

namespace Arguments

inductive Setting where
  | config
  | workers
  | logLevel
deriving DecidableEq, Repr

def Setting.ofName? : String → Option Setting
  | "config" => some .config
  | "workers" => some .workers
  | "log-level" => some .logLevel
  | _ => none

structure Draft where
  config : Option String := none
  workers : Option Nat := none
  logLevel : Option Level := none
  dryRun : Bool := false
  /-- The last option, with its value once that has been read. -/
  pending : Option (Setting × Option String) := none
deriving DecidableEq, Repr

namespace Draft

def assign (draft : Draft) (setting : Setting) (value : String) : Except UsageError Draft :=
  match setting with
  | .config =>
    if draft.config.isSome then .error .repeatedOption
    else if value.isEmpty then .error .invalidValue
    else .ok { draft with config := some value }
  | .workers =>
    if draft.workers.isSome then .error .repeatedOption
    else
      match Text.count? value with
      | none => .error .noCount
      | some n => .ok { draft with workers := some n }
  | .logLevel =>
    if draft.logLevel.isSome then .error .repeatedOption
    else
      match Level.ofName? value with
      | none => .error .invalidValue
      | some level => .ok { draft with logLevel := some level }

/-- Takes the value of the last option over. -/
def settle (draft : Draft) : Except UsageError Draft :=
  match draft.pending with
  | none => .ok draft
  | some (_, none) => .error .invalidValue
  | some (setting, some value) => { draft with pending := none }.assign setting value

def long (draft : Draft) (name : String) (value : Option String) : Except UsageError Draft := do
  match Setting.ofName? name, name, value with
  | some setting, _, some value => (← draft.settle).assign setting value
  | some setting, _, none => return { ← draft.settle with pending := some (setting, none) }
  | none, "dry-run", none =>
    let draft ← draft.settle
    if draft.dryRun then .error .repeatedOption else return { draft with dryRun := true }
  | none, "help", none => let _ ← draft.settle; .error (.help true)
  | none, "version", none => let _ ← draft.settle; .error .version
  | none, "dry-run", some _ | none, "help", some _ | none, "version", some _ =>
    .error .surplusValue
  | none, _, _ => .error .unknownArgument

/-- Reads short options, of which the first one decides. -/
def short (draft : Draft) (first : Char) : Except UsageError Draft := do
  if first = 'h' then let _ ← draft.settle; .error (.help false)
  else if first = 'V' then let _ ← draft.settle; .error .version
  else .error .unknownArgument

/-- Reads the words that are left. Nothing may stand behind a lone double dash. -/
def read (draft : Draft) : List String → Except UsageError Draft
  | [] => draft.settle
  | word :: rest => do
    match word.toList with
    | ['-', '-'] => if rest.isEmpty then draft.settle else .error .unknownArgument
    | '-' :: '-' :: cs =>
      match cs.span (· ≠ '=') with
      | (name, []) => read (← draft.long (.ofList name) none) rest
      | (name, _ :: value) => read (← draft.long (.ofList name) (some (.ofList value))) rest
    | '-' :: first :: _ => read (← draft.short first) rest
    | _ =>
      match draft.pending with
      | some (setting, none) => read { draft with pending := some (setting, some word) } rest
      | _ => .error .unknownArgument

end Draft

def read (words : List String) : Except UsageError Arguments := do
  let draft ← Draft.read {} words
  return { config := draft.config.getD ({} : Arguments).config, workers := draft.workers
           logLevel := draft.logLevel, dryRun := draft.dryRun }

end Arguments

end Precedence

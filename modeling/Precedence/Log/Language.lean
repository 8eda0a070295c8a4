import Precedence.Log.Record
import Precedence.Text.Blank
import Precedence.Text.LowerCase
/-!
# Choosing a log filter

How filters are written, and what they let through, is left to others (`FilterLanguage`). The level
given on the command line decides; else the environment, if it holds a filter; else records from
level info on are let through.
-/

namespace Precedence

structure FilterLanguage (F : Type) where
  /-- Reads directives between commas, or rejects them all. -/
  read? : String → Option F
  skim : String → F
  lets : F → LogRecord → Bool

namespace FilterLanguage

variable {F : Type} (language : FilterLanguage F)

def standard : F := language.skim "info"

def directives (text : String) : String :=
  if text.toLower = "warning" then "warn" else Text.lower text

/-- The filter, and the text from the environment if it was rejected. -/
def resolve (level : Option Level) (environment : Option String) : F × Option String :=
  match level, environment.map Text.trim with
  | some level, _ => (language.skim level.name, none)
  | none, none | none, some "" => (language.standard, none)
  | none, some text =>
    match language.read? (directives text) with
    | some filter => (filter, none)
    | none => (language.standard, some text)

/-- The filter for test runs: the text from the environment as it is. -/
def forTests (environment : Option String) : F :=
  (environment.bind language.read?).getD language.standard

end FilterLanguage

end Precedence

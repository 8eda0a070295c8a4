import Precedence.Log.Language
import Precedence.Log.Pattern
import Precedence.Text.Count
import Precedence.Text.Utf8
/-!
# Log filters

A filter is written as directives between commas. A directive is a level, or an area with a level,
where a span and a field may stand in square brackets behind the area. Of the directives whose area
is a start of a record's area and whose field the record has, the most specific one decides.
-/

namespace Precedence

/-- The most that is let through; `none` lets nothing through. -/
abbrev Threshold := Option Level

namespace Threshold

def verbosity (threshold : Threshold) : Nat := (threshold.map Level.verbosity).getD 0

def ofNumber? : Nat → Option Threshold
  | 0 => some none
  | 1 => some (some .error)
  | 2 => some (some .warn)
  | 3 => some (some .info)
  | 4 => some (some .debug)
  | 5 => some (some .trace)
  | _ => none

/-- A threshold by its number or its name, in any case. The empty name is that of errors. -/
def ofText? (text : String) : Option Threshold :=
  match (Text.count? text).bind ofNumber? with
  | some threshold => some threshold
  | none =>
    let name := text.toLower
    if name.isEmpty then some (some .error)
    else if name = "off" then some none
    else (Level.ofName? name).map some

end Threshold

structure Directive where
  threshold : Threshold := some .trace
  area : Option String := none
  span : Option String := none
  field : Option (String × Option String) := none
deriving DecidableEq, Repr

namespace Directive

inductive Stage where
  | start
  | levelOrArea (start : Nat)
  | span (start : Nat)
  | field (start : Nat)
  | fieldEnd
  | bracketEnd
  | level (start : Nat)
deriving DecidableEq, Repr

def slice? (bytes : List UInt8) (start stop : Nat) : Option String :=
  Text.Utf8.text? ((bytes.drop start).take (stop - start))

/-- A field with its value behind an equals sign, which is a number or a pattern. -/
def field? (text : String) : Option (String × Option String) :=
  match text.splitOn "=" with
  | name :: value :: _ =>
    if Pattern.isNumber value || Pattern.isValid value then some (name, some value) else none
  | _ => some (text, none)

def step (bytes : List UInt8) (d : Directive) (stage : Stage) (i : Nat) (c : Char) :
    Option (Directive × Stage) :=
  match stage with
  | .start =>
    if c = '[' then some (d, .span (i + 1))
    else if c = '-' || c = ':' || c = '_' || Text.isAlphanumeric c then
      some (d, .levelOrArea i)
    else none
  | .levelOrArea start =>
    if c = '=' then
      (slice? bytes start i).map fun area => ({ d with area := some area }, .level (i + 1))
    else if c = '[' then
      (slice? bytes start i).map fun area => ({ d with area := some area }, .span (i + 1))
    else some (d, stage)
  | .span start =>
    if c = ']' then
      (slice? bytes start i).map fun span => ({ d with span := some span }, .bracketEnd)
    else if c = '\x7b' then
      (slice? bytes start i).map fun span =>
        ({ d with span := if span.isEmpty then none else some span }, .field (i + 1))
    else some (d, stage)
  | .field start =>
    if c = '\x7d' then do
      let text ← slice? bytes start i
      if text.isEmpty then none
      else (field? text).map fun field => ({ d with field := some field }, .fieldEnd)
    else some (d, stage)
  | .fieldEnd => if c = ']' then some (d, .bracketEnd) else none
  | .bracketEnd => if c = '=' then some (d, .level (i + 1)) else none
  | .level _ => some (d, stage)

def steps (bytes : List UInt8) (d : Directive) (stage : Stage) (i : Nat) :
    List Char → Option (Directive × Stage × Nat)
  | [] => some (d, stage, i)
  | c :: cs => do
    let (d, stage) ← step bytes d stage i c
    steps bytes d stage (i + c.utf8Size) cs

/-- Reads a directive. Blanks around it are not read, but places are counted from the first blank
on, so blanks in front of an area or a level become a part of it. -/
def read? (text : String) : Option Directive := do
  let bytes := Text.Utf8.encode text
  let (d, stage, _) ← steps bytes {} .start 0 (Text.trim text).toList
  match stage with
  | .levelOrArea start =>
    let name ← slice? bytes start bytes.length
    match Threshold.ofText? name with
    | some threshold => some { d with threshold, area := none }
    | none => some { d with threshold := some .trace, area := some name }
  | .level start =>
    let name ← slice? bytes start bytes.length
    if name.isEmpty then some { d with threshold := some .trace }
    else (Threshold.ofText? name).map fun threshold => { d with threshold }
  | .bracketEnd => some d
  | _ => none

def isDynamic (d : Directive) : Bool := d.span.isSome || d.field.isSome

def namesValue (d : Directive) : Bool :=
  match d.field with
  | some (_, some _) => true
  | _ => false

/-- Whether the directive is about records wherever they are. -/
def isStatic (d : Directive) : Bool := d.span.isNone && !d.namesValue

def covers (d : Directive) (record : LogRecord) : Bool :=
  d.area.all (fun area => area.toList.isPrefixOf record.area.toList) &&
    d.field.all fun (name, _) => name ∈ record.names

/-- How specific a directive is: first by the length of its area. -/
def areaRank (d : Directive) : Nat := (d.area.map fun area => area.utf8ByteSize + 1).getD 0

/-- Whether the first of two directives about one record is the less specific one, or was given
earlier. -/
def yields (a b : Directive) : Bool :=
  if a.areaRank ≠ b.areaRank then a.areaRank < b.areaRank
  else
    match a.field, b.field with
    | none, _ => true
    | some _, none => false
    | some (name, _), some (other, _) => name ≤ other

end Directive

structure Filter where
  directives : List Directive
deriving DecidableEq, Repr

namespace Filter

/-- The directives of a text. Empty ones are skipped. -/
def parts (text : String) : List String := (text.splitOn ",").filter (!·.isEmpty)

def read? (text : String) : Option Filter := ((parts text).mapM Directive.read?).map Filter.mk

/-- Reads what is a directive. Errors are let through if nothing is. -/
def skim (text : String) : Filter :=
  match (parts text).filterMap Directive.read? with
  | [] => ⟨[{ threshold := some .error }]⟩
  | directives => ⟨directives⟩

/-- The directives about records wherever they are: those with a field come after the others. -/
def rules (filter : Filter) : List Directive :=
  filter.directives.filter (!·.isDynamic) ++
    filter.directives.filter fun d => d.isDynamic && d.isStatic

def decisive (filter : Filter) (record : LogRecord) : Option Directive :=
  (filter.rules.filter (·.covers record)).foldl
    (fun
      | none, d => some d
      | some best, d => some (if best.yields d then d else best))
    none

def lets (filter : Filter) (record : LogRecord) : Bool :=
  match filter.decisive record with
  | some d => record.level.verbosity ≤ d.threshold.verbosity
  | none => false

/-- The most verbose level that the filter could let through, as its verbosity. A value of a field
is only known once it is there, so a directive with one counts as the most verbose. -/
def verbosity (filter : Filter) : Nat :=
  if filter.directives.any Directive.namesValue then Level.trace.verbosity
  else (filter.directives.map (·.threshold.verbosity)).foldl max 0

def language : FilterLanguage Filter := { read?, skim, lets }

end Filter

namespace LogSetup

def resolve : Option Level → Option String → Filter × Option String := Filter.language.resolve

def forTests : Option String → Filter := Filter.language.forTests

end LogSetup

end Precedence

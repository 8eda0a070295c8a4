import Precedence.Shell.Regex
import Precedence.Shell.Tool.Awk.Value

namespace Precedence.Shell.Tool.Awk

/-- An expression whose brackets hold no backslashes: what these stand for is written out. -/
def unbackslashed : Nat → Bool → Bytes → Bytes
  | 0, _, cs => cs
  | _, _, [] => []
  | fuel + 1, true, '\\' :: rest =>
    let (c, rest) : Char × Bytes := match rest with
      | [] => ('\\', [])
      | c :: more => if c ∈ "abfnrtv01234567".toList then escape rest else (c, more)
    (if c = ']' || c = '-' || c = '^' then ['[', '.', c, '.', ']'] else [c]) ++
      unbackslashed fuel true rest
  | fuel + 1, true, '[' :: mark :: rest =>
    if mark = ':' then
      let (name, rest) := rest.span (· ≠ ']')
      '[' :: ':' :: name ++ rest.take 1 ++ unbackslashed fuel true (rest.drop 1)
    else '[' :: unbackslashed fuel true (mark :: rest)
  | fuel + 1, true, ']' :: rest => ']' :: unbackslashed fuel false rest
  | fuel + 1, true, c :: rest => c :: unbackslashed fuel true rest
  | fuel + 1, false, '\\' :: '"' :: rest => '"' :: unbackslashed fuel false rest
  | fuel + 1, false, '\\' :: c :: rest => '\\' :: c :: unbackslashed fuel false rest
  | fuel + 1, false, '[' :: rest =>
    let (negated, rest) := match rest with
      | '^' :: rest => (['^'], rest)
      | _ => ([], rest)
    let (first, rest) := match rest with
      | ']' :: rest => ([']'], rest)
      | _ => ([], rest)
    '[' :: negated ++ first ++ unbackslashed fuel true rest
  | fuel + 1, false, c :: rest => c :: unbackslashed fuel false rest

def pattern? (source : Bytes) : Except String Regex :=
  let text := unbackslashed (source.length + 1) false source
  match Regex.parse { extended := true, guarded := false } text with
  | .ok (regex, _) => .ok regex
  | .error text => .error s!"regular expression compile failed ({text})\n{String.ofList source}"

/-- The parts of a text between the matches of an expression, of which none is empty. -/
def splitBy (regex : Regex) (subject : Array Char) : Nat → Nat → Nat → List Bytes
  | 0, start, _ => [(subject.extract start subject.size).toList]
  | fuel + 1, start, place =>
    match regex.first? subject place with
    | none => [(subject.extract start subject.size).toList]
    | some found =>
      if found.start = found.stop then
        if subject.size ≤ found.start then [(subject.extract start subject.size).toList]
        else splitBy regex subject fuel start (found.start + 1)
      else
        (subject.extract start found.start).toList ::
          splitBy regex subject fuel found.stop found.stop

def words (text : Bytes) : List Bytes :=
  (text.splitOnP fun c => c = ' ' || c = '\t' || c = '\n').filter (!·.isEmpty)

/-- The fields of a text. With `inParagraph`, lines end fields as well. -/
def fieldsOf (separator : Bytes) (inParagraph : Bool) (text : Bytes) : Except String (List Bytes) :=
  if text.isEmpty then .ok []
  else
    match separator with
    | [' '] => .ok (words text)
    | [] => .ok (text.map fun c => [c])
    | [c] => .ok (text.splitOnP fun d => d = c || (inParagraph && d = '\n'))
    | source => do
      let regex ← pattern? (if inParagraph then '(' :: source ++ ")|\n".toList else source)
      return splitBy regex text.toArray (text.length + 1) 0 0

def firstRecord? (separator text : Bytes) : Except String (Option (Bytes × Bytes)) :=
  match separator with
  | [] =>
    let text := text.dropWhile (· = '\n')
    let rec go : Bytes → Bytes → Bytes × Bytes
      | record, '\n' :: '\n' :: rest => (record.reverse, rest.dropWhile (· = '\n'))
      | record, ['\n'] | record, [] => (record.reverse, [])
      | record, c :: rest => go (c :: record) rest
    .ok (if text.isEmpty then none else some (go [] text))
  | [c] =>
    let rec upTo : Bytes → Bytes → Bytes × Bytes
      | record, [] => (record.reverse, [])
      | record, d :: rest => if d = c then (record.reverse, rest) else upTo (d :: record) rest
    .ok (if text.isEmpty then none else some (upTo [] text))
  | source => do
    let regex ← pattern? source
    let subject := text.toArray
    if text.isEmpty then return none
    match regex.first? subject 0 with
    | some found =>
      if found.start = found.stop then return some (text, [])
      return some ((subject.extract 0 found.start).toList,
        (subject.extract found.stop subject.size).toList)
    | none => return some (text, [])

/-- What stands in the place of a match: the match itself for an ampersand without a backslash. -/
def replacement (found : Bytes) : Bytes → Bytes
  | [] => []
  | '\\' :: '&' :: rest => '&' :: replacement found rest
  | '\\' :: '\\' :: rest => '\\' :: replacement found rest
  | '&' :: rest => found ++ replacement found rest
  | c :: rest => c :: replacement found rest

/-- Replaces the first match from a place on, or all of them, and counts them. The end of the last
match is no place for an empty one. -/
def substituted (regex : Regex) (filling : Bytes) (global : Bool) (subject : Array Char) :
    Nat → Nat → Option Nat → Bytes × Nat
  | 0, place, _ => ((subject.extract place subject.size).toList, 0)
  | fuel + 1, place, lastEnd =>
    match regex.first? subject place with
    | none => ((subject.extract place subject.size).toList, 0)
    | some found =>
      let front := (subject.extract place found.start).toList
      let next := (subject.extract found.stop (found.stop + 1)).toList
      let isEmpty := found.start = found.stop
      let text := if isEmpty && lastEnd = some found.start then []
        else replacement (subject.extract found.start found.stop).toList filling
      let count := if isEmpty && lastEnd = some found.start then 0 else 1
      if !global then (front ++ text ++ (subject.extract found.stop subject.size).toList, 1)
      else if !isEmpty then
        let (rest, more) :=
          substituted regex filling global subject fuel found.stop (some found.stop)
        (front ++ text ++ rest, count + more)
      else if subject.size ≤ found.start then (front ++ text, count)
      else
        let (rest, more) := substituted regex filling global subject fuel (found.stop + 1) none
        (front ++ text ++ next ++ rest, count + more)

end Precedence.Shell.Tool.Awk

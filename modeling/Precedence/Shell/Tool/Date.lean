import Precedence.Shell.Tool.Basic

namespace Precedence.Shell.Tool

namespace Date

/-- The days from the start of a year to the same day of the next one. -/
def yearLength (year : Nat) : Nat :=
  if year % 4 = 0 && (year % 100 ≠ 0 || year % 400 = 0) then 366 else 365

def monthLengths (year : Nat) : List Nat :=
  [31, yearLength year - 337, 31, 30, 31, 30, 31, 31, 30, 31, 30, 31]

/-- The year, and the day in it, of a day that is counted from the start of 1970. -/
def yearOf : Nat → Nat → Nat → Nat × Nat
  | 0, year, day => (year, day)
  | fuel + 1, year, day =>
    if day < yearLength year then (year, day) else yearOf fuel (year + 1) (day - yearLength year)

def monthOf : List Nat → Nat → Nat → Nat × Nat
  | [], month, day => (month, day)
  | size :: rest, month, day =>
    if day < size then (month, day) else monthOf rest (month + 1) (day - size)

def weekdays : List String :=
  ["Sunday", "Monday", "Tuesday", "Wednesday", "Thursday", "Friday", "Saturday"]

def months : List String :=
  ["January", "February", "March", "April", "May", "June", "July", "August", "September", "October",
    "November", "December"]

/-- The text of a format for the seconds since the start of 1970. -/
def dateText (time : Nat) : Nat → Bytes → Bytes
  | 0, _ => []
  | _ + 1, [] => []
  | fuel + 1, '%' :: letter :: rest =>
    let days := time / 86400
    let second := time % 86400
    let (year, dayOfYear) := yearOf (days / 365 + 1) 1970 days
    let (month, day) := monthOf (monthLengths year) 0 dayOfYear
    let weekday := (days + 4) % 7
    let hour := second / 3600
    let two (n : Nat) : Bytes := pad false '0' 2 (Number.text n)
    let named (names : List String) (n : Nat) : Bytes := ((names[n]?).getD "").toList
    let (text, rest) : Bytes × Bytes := match letter with
      | 'Y' => (Number.text year, rest)
      | 'C' => (two (year / 100), rest)
      | 'y' => (two (year % 100), rest)
      | 'm' => (two (month + 1), rest)
      | 'd' => (two (day + 1), rest)
      | 'e' => (pad false ' ' 2 (Number.text (day + 1)), rest)
      | 'H' => (two hour, rest)
      | 'I' => (two ((hour + 11) % 12 + 1), rest)
      | 'M' => (two (second / 60 % 60), rest)
      | 'S' => (two (second % 60), rest)
      | 'N' => ("000000000".toList, rest)
      | 's' => (Number.text time, rest)
      | 'j' => (pad false '0' 3 (Number.text (dayOfYear + 1)), rest)
      | 'u' => (Number.text (if weekday = 0 then 7 else weekday), rest)
      | 'w' => (Number.text weekday, rest)
      | 'p' => ((if hour < 12 then "AM" else "PM").toList, rest)
      | 'a' => ((named weekdays weekday).take 3, rest)
      | 'A' => (named weekdays weekday, rest)
      | 'b' | 'h' => ((named months month).take 3, rest)
      | 'B' => (named months month, rest)
      | 'Z' => ("UTC".toList, rest)
      | 'z' => ("+0000".toList, rest)
      | 'n' => (['\n'], rest)
      | 't' => (['\t'], rest)
      | '%' => (['%'], rest)
      | 'F' => ([], "%Y-%m-%d".toList ++ rest)
      | 'T' | 'X' => ([], "%H:%M:%S".toList ++ rest)
      | 'R' => ([], "%H:%M".toList ++ rest)
      | 'D' | 'x' => ([], "%m/%d/%y".toList ++ rest)
      | 'c' => ([], "%a %b %e %H:%M:%S %Y".toList ++ rest)
      | c => (['%', c], rest)
    text ++ dateText time fuel rest
  | fuel + 1, c :: rest => c :: dateText time fuel rest

def origin : Nat := 1700000000

end Date

open Date in
def date : Tool := fun arguments =>
  let allowed := letters "uR" "dr" ++ flags [('u', "utc")] ++ settings [('d', "date")] ++
    markers [('I', "iso-8601")]
  withChoice "date" allowed false 1 arguments fun options operands => do
    let now := origin + (← get).world.clock / Nat.pow 10 6
    let time := match last? 'd' options with
      | none => some now
      | some ('@' :: digits) => Number.decimal? digits
      | some text => if text = "now".toList then some now else none
    match time, operands with
    | none, _ =>
      let text := String.ofList ((last? 'd' options).getD [])
      refuse "date" s!"invalid date '{text}'"
    | some time, [] =>
      let format := if has 'I' options then "%F"
        else if has 'R' options then "%a, %d %b %Y %T %z" else "%a %b %e %H:%M:%S %Z %Y"
      put "date" (dateText time 200 format.toList ++ ['\n'])
    | some time, ('+' :: format) :: rest =>
      match rest with
      | [] => put "date" (dateText time (10 * format.length + 1) format ++ ['\n'])
      | extra :: _ => misuse "date" s!"extra operand '{String.ofList extra}'"
    | some _, text :: _ => refuse "date" s!"invalid date '{String.ofList text}'"

end Precedence.Shell.Tool

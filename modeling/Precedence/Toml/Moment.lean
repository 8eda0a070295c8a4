/-!
# Dates and times

A moment is a date, a time of day, or a date with a time and perhaps a distance from universal
time. Seconds may be left out and have a fraction, of which nine digits count. `Moment.text` is its
one written form: `T` before the time, all seconds, and no zeros at the end of a fraction.

Readers take a text from its front and give what they read together with the rest.
-/

namespace Precedence.Toml

def decimalValue (digits : List Char) : Nat :=
  digits.foldl (fun n c => n * 10 + (c.toNat - '0'.toNat)) 0

def fixed? (n : Nat) (cs : List Char) : Option (Nat × List Char) :=
  let digits := cs.take n
  if digits.length = n ∧ digits.all Char.isDigit then some (decimalValue digits, cs.drop n)
  else none

def expect? (c : Char) : List Char → Option (List Char)
  | d :: rest => if d = c then some rest else none
  | [] => none

structure Date where
  year : Nat
  month : Nat
  day : Nat
deriving DecidableEq, Repr

structure Clock where
  hour : Nat
  minute : Nat
  second : Nat := 0
  nanosecond : Nat := 0
deriving DecidableEq, Repr

inductive Offset where
  | universal
  | minutes (east : Int)
deriving DecidableEq, Repr

structure Moment where
  date : Option Date := none
  clock : Option Clock := none
  offset : Option Offset := none
deriving DecidableEq, Repr

def isLeapYear (year : Nat) : Bool := year % 4 = 0 && (year % 100 ≠ 0 || year % 400 = 0)

def daysIn (year month : Nat) : Nat :=
  if month = 2 then (if isLeapYear year then 29 else 28)
  else if month = 4 ∨ month = 6 ∨ month = 9 ∨ month = 11 then 30
  else 31

def Date.read? (cs : List Char) : Option (Date × List Char) := do
  let (year, cs) ← fixed? 4 cs
  let cs ← expect? '-' cs
  let (month, cs) ← fixed? 2 cs
  let cs ← expect? '-' cs
  let (day, cs) ← fixed? 2 cs
  if 1 ≤ month ∧ month ≤ 12 ∧ 1 ≤ day ∧ day ≤ daysIn year month then some (⟨year, month, day⟩, cs)
  else none

def hourMinute? (cs : List Char) : Option ((Nat × Nat) × List Char) := do
  let (hour, cs) ← fixed? 2 cs
  let cs ← expect? ':' cs
  let (minute, cs) ← fixed? 2 cs
  if hour ≤ 23 ∧ minute ≤ 59 then some ((hour, minute), cs) else none

/-- The nanoseconds that the digits of a fraction stand for. -/
def nanoseconds (digits : List Char) : Nat := decimalValue ((digits ++ List.replicate 9 '0').take 9)

/-- A time of day. A minute may have a leap second. -/
def Clock.read? (cs : List Char) : Option (Clock × List Char) := do
  let ((hour, minute), cs) ← hourMinute? cs
  match cs with
  | ':' :: cs =>
    let (second, cs) ← fixed? 2 cs
    if 60 < second then none
    else
      match cs with
      | '.' :: cs =>
        let (digits, cs) := cs.span Char.isDigit
        if digits.isEmpty then none else some (⟨hour, minute, second, nanoseconds digits⟩, cs)
      | _ => some (⟨hour, minute, second, 0⟩, cs)
  | _ => some (⟨hour, minute, 0, 0⟩, cs)

/-- The distance that a whole text stands for; an empty one leaves it open. -/
def Offset.ofText? : List Char → Option (Option Offset)
  | [] => some none
  | ['Z'] | ['z'] => some (some .universal)
  | sign :: cs =>
    if sign = '+' ∨ sign = '-' then
      match hourMinute? cs with
      | some ((hour, minute), []) =>
        let distance : Int := (hour * 60 + minute : Nat)
        some (some (.minutes (if sign = '-' then -distance else distance)))
      | _ => none
    else none

namespace Moment

def ofText? (cs : List Char) : Option Moment :=
  match Date.read? cs with
  | some (date, []) => some { date := some date }
  | some (date, mark :: cs) =>
    if mark = 'T' ∨ mark = 't' ∨ mark = ' ' then do
      let (clock, cs) ← Clock.read? cs
      let offset ← Offset.ofText? cs
      some ⟨some date, some clock, offset⟩
    else none
  | none =>
    match Clock.read? cs with
    | some (clock, []) => some { clock := some clock }
    | _ => none

end Moment

def padded (width n : Nat) : String := .ofList (Nat.toDigits 10 n |>.leftpad width '0')

def Date.text (date : Date) : String :=
  s!"{padded 4 date.year}-{padded 2 date.month}-{padded 2 date.day}"

def Clock.text (clock : Clock) : String :=
  let digits := (padded 9 clock.nanosecond).toList
  let fraction := (digits.reverse.dropWhile (· = '0')).reverse
  s!"{padded 2 clock.hour}:{padded 2 clock.minute}:{padded 2 clock.second}" ++
    if fraction.isEmpty then "" else "." ++ String.ofList fraction

def Offset.text : Offset → String
  | universal => "Z"
  | minutes east =>
    let distance := east.natAbs
    (if east < 0 then "-" else "+") ++ s!"{padded 2 (distance / 60)}:{padded 2 (distance % 60)}"

def Moment.text (moment : Moment) : String :=
  ((moment.date.map Date.text).getD "") ++
  (if moment.date.isSome ∧ moment.clock.isSome then "T" else "") ++
  ((moment.clock.map Clock.text).getD "") ++
  ((moment.offset.map Offset.text).getD "")

end Precedence.Toml

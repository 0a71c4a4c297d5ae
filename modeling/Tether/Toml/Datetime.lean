import Tether.Duration

namespace Tether

/-! # Dates and times

A date, a time of day, or both, and then perhaps an offset. The text of a value is the shortest one: no fraction
that is zero, and `T` between date and time.
-/

/-- A day of the calendar. -/
structure Date where
  year : Nat
  month : Nat
  day : Nat
deriving DecidableEq, Repr

/-- A time of day. -/
structure TimeOfDay where
  hour : Nat
  minute : Nat
  second : Nat
  nanos : Nat
deriving DecidableEq, Repr

/-- How far a time is from universal time. -/
inductive Offset where
  | universal
  /-- A sign, hours and minutes. -/
  | shifted (negative : Bool) (hours minutes : Nat)
deriving DecidableEq, Repr

/-- A date, a time, or both. -/
structure Datetime where
  date : Option Date
  time : Option TimeOfDay
  offset : Option Offset
deriving DecidableEq, Repr

/-- The number of days of a month. -/
def Date.daysIn (year month : Nat) : Nat :=
  if month = 2 then if year % 4 = 0 ∧ (year % 100 ≠ 0 ∨ year % 400 = 0) then 29 else 28
  else if [4, 6, 9, 11].contains month then 30
  else 31

/-- A date of the calendar. -/
def Date.valid (d : Date) : Bool :=
  1 ≤ d.month && d.month ≤ 12 && 1 ≤ d.day && d.day ≤ Date.daysIn d.year d.month

/-- A time of a day, whose last minute may have one second more. -/
def TimeOfDay.valid (t : TimeOfDay) : Bool := t.hour ≤ 23 && t.minute ≤ 59 && t.second ≤ 60

/-- The text of a date. -/
def Date.chars (d : Date) : List Char :=
  Decimal.padded 4 d.year ++ '-' :: Decimal.padded 2 d.month ++ '-' :: Decimal.padded 2 d.day

/-- The text of a time. -/
def TimeOfDay.chars (t : TimeOfDay) : List Char :=
  Decimal.padded 2 t.hour ++ ':' :: Decimal.padded 2 t.minute ++ ':' :: Decimal.padded 2 t.second ++
    Duration.decimals 9 t.nanos

/-- The text of an offset; one of nothing has a plus sign. -/
def Offset.chars : Offset → List Char
  | .universal => ['Z']
  | .shifted negative hours minutes =>
    (if negative && (hours != 0 || minutes != 0) then '-' else '+') ::
      (Decimal.padded 2 hours ++ ':' :: Decimal.padded 2 minutes)

/-- The text of a date or time. -/
def Datetime.text (d : Datetime) : String :=
  let date := (d.date.map Date.chars).getD []
  let time := (d.time.map TimeOfDay.chars).getD []
  let mark := if d.date.isSome && d.time.isSome then ['T'] else []
  String.ofList (date ++ mark ++ time ++ (d.offset.map Offset.chars).getD [])

end Tether

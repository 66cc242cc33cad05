import DomainCompiler.Number.Decimal

/-!
# Dates and times

Calendar dates of the years 1 to 9999 and times of day, as they stand in documents.
-/

namespace DomainCompiler

structure Date where
  year : Nat
  month : Nat
  day : Nat
  deriving DecidableEq, Repr

/-- A date with a time of day. -/
structure Moment where
  date : Date
  hour : Nat
  minute : Nat
  second : Nat
  microsecond : Nat
  /-- Minutes ahead of universal time, where the moment says so. -/
  offset : Option Int
  deriving DecidableEq, Repr

/-- What is wrong with the parts of a date or a time. -/
inductive CalendarError where
  | year (n : Nat)
  | month
  | day
  | hour
  | minute
  | second
  | offset (minutes : Int)
  deriving DecidableEq, Repr

namespace Calendar

def isLeap (year : Nat) : Bool :=
  year % 4 == 0 && (year % 100 != 0 || year % 400 == 0)

def daysIn (year month : Nat) : Nat :=
  if month == 2 then (if isLeap year then 29 else 28)
  else if month == 4 || month == 6 || month == 9 || month == 11 then 30
  else 31

/-- Days before the first day of the year, counted from the first day of the year 1. -/
def daysBeforeYear (year : Nat) : Nat :=
  let y := year - 1
  y * 365 + y / 4 - y / 100 + y / 400

/-- The number of the day in the calendar; the first day of the year 1 has number 1. -/
def dayNumber (d : Date) : Nat :=
  (List.range (d.month - 1)).foldl (fun days m => days + daysIn d.year (m + 1))
    (daysBeforeYear d.year) + d.day

def offsetText (minutes : Int) : String :=
  let n := minutes.natAbs
  let two (k : Nat) := String.ofList (Decimal.padZeros 2 (Decimal.ofNat k))
  (if minutes < 0 then "-" else "+") ++ two (n / 60) ++ ":" ++ two (n % 60)

end Calendar

namespace Date

/-- The date, where its parts name one. -/
def make (year month day : Nat) : Except CalendarError Date :=
  if year < 1 then .error (.year year)
  else if month < 1 || 12 < month then .error .month
  else if day < 1 || Calendar.daysIn year month < day then .error .day
  else .ok { year, month, day }

/-- The date as `2024-01-31`. -/
def text (d : Date) : String :=
  String.ofList (Decimal.padZeros 4 (Decimal.ofNat d.year) ++ '-' ::
    Decimal.padZeros 2 (Decimal.ofNat d.month) ++ '-' :: Decimal.padZeros 2 (Decimal.ofNat d.day))

end Date

namespace Moment

/-- The moment, where its parts name one. -/
def make (date : Except CalendarError Date) (hour minute second microsecond : Nat)
    (offset : Option Int) : Except CalendarError Moment :=
  match offset with
  | some m => if 1440 ≤ m.natAbs then .error (.offset m) else build
  | none => build
where
  build : Except CalendarError Moment := do
    let date ← date
    if 23 < hour then throw .hour
    if 59 < minute then throw .minute
    if 59 < second then throw .second
    return { date, hour, minute, second, microsecond, offset }

/-- The time of day, with a fraction where there is one. -/
def clockText (m : Moment) : String :=
  let two (k : Nat) := String.ofList (Decimal.padZeros 2 (Decimal.ofNat k))
  two m.hour ++ ":" ++ two m.minute ++ ":" ++ two m.second ++
    if m.microsecond = 0 then ""
    else "." ++ String.ofList (Decimal.padZeros 6 (Decimal.ofNat m.microsecond))

/-- The moment with the given mark between the date and the time. -/
def text (separator : String) (m : Moment) : String :=
  m.date.text ++ separator ++ m.clockText ++
    match m.offset with
    | some minutes => Calendar.offsetText minutes
    | none => ""

/-- Microseconds since the start of the calendar, in universal time where an offset is known. -/
def instant (m : Moment) : Int :=
  let minutes : Int :=
    ((Calendar.dayNumber m.date * 24 + m.hour) * 60 + m.minute : Nat) - m.offset.getD 0
  (minutes * 60 + m.second) * 1000000 + m.microsecond

/-- Whether two moments are the same point in time, or the same local time without offsets. -/
def same (a b : Moment) : Bool :=
  a.offset.isSome == b.offset.isSome && a.instant == b.instant

end Moment

end DomainCompiler

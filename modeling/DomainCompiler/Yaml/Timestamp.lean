import DomainCompiler.Yaml.Character
import DomainCompiler.Yaml.Fault

/-!
# Dates and times in documents

A date is a year, a month and a day; a time of day, a fraction of a second and an offset from
universal time may follow.
-/

namespace DomainCompiler.Yaml

/-- The time of day in a timestamp. -/
structure Clock where
  hour : Nat
  minute : Nat
  second : Nat
  microsecond : Nat
  offset : Option Int

/-- The parts of a timestamp, not yet checked against the calendar. -/
structure Timestamp where
  year : Nat
  month : Nat
  day : Nat
  clock : Option Clock

namespace Timestamp

/-- The number that one or two digits at the start of the text write. -/
def short? : List Char → Option (Nat × List Char)
  | a :: b :: rest =>
    if a.isDigit && b.isDigit then (Decimal.readNat? 10 [a, b]).map fun n => (n, rest)
    else if a.isDigit then (Decimal.readNat? 10 [a]).map fun n => (n, b :: rest)
    else none
  | [a] => if a.isDigit then (Decimal.readNat? 10 [a]).map fun n => (n, []) else none
  | [] => none

/-- The number that exactly so many digits write. -/
def digits? (count : Nat) (s : List Char) : Option (Nat × List Char) :=
  let ds := s.take count
  if ds.length == count && ds.all Char.isDigit then
    (Decimal.readNat? 10 ds).map fun n => (n, s.drop count)
  else none

def behind? (mark : Char) (s : List Char) : Option (List Char) :=
  if next s == mark then some s.tail else none

/-- Microseconds of the digits of a fraction; digits beyond the sixth one do not count. -/
def microseconds (ds : List Char) : Nat :=
  let six := (ds ++ List.replicate 6 '0').take 6
  (Decimal.readNat? 10 six).getD 0

/-- The minutes of an offset, which may be left out. -/
def offsetMinutes? : List Char → Option Nat
  | [] => some 0
  | ':' :: rest =>
    match digits? 2 rest with
    | some (n, []) => some n
    | _ => none
  | _ => none

/-- The offset at the end of a timestamp: none, or that of universal time, or hours and minutes. -/
def offset? (s : List Char) : Option (Option Int) :=
  if s.isEmpty then some none
  else
    match s.dropWhile isTabOrSpace with
    | ['Z'] => some (some 0)
    | sign :: rest =>
      if sign == '+' || sign == '-' then do
        let (hours, rest) ← short? rest
        let minutes ← offsetMinutes? rest
        let total : Int := (hours * 60 + minutes : Nat)
        some (some (if sign == '-' then -total else total))
      else none
    | [] => none

/-- A time of day at the start of the text, and all that follows it. -/
def clock? (s : List Char) : Option Clock := do
  let (hour, rest) ← short? s
  let (minute, rest) ← digits? 2 (← behind? ':' rest)
  let (second, rest) ← digits? 2 (← behind? ':' rest)
  let (fraction, rest) := match rest with
    | '.' :: more => Decimal.spanDigits more
    | _ => ([], rest)
  let offset ← offset? rest
  some { hour, minute, second, microsecond := microseconds fraction, offset }

/-- The text of the time behind what separates it from the date. -/
def clockText? : List Char → Option (List Char)
  | [] => none
  | c :: rest =>
    if c == 'T' || c == 't' then some rest
    else if isTabOrSpace c then some (rest.dropWhile isTabOrSpace)
    else none

/-- The parts of a timestamp. -/
def parse? (s : List Char) : Option Timestamp := do
  let (year, rest) ← digits? 4 s
  let (month, rest) ← short? (← behind? '-' rest)
  let (day, rest) ← short? (← behind? '-' rest)
  if rest.isEmpty then some { year, month, day, clock := none }
  else
    let clock ← clock? (← clockText? rest)
    some { year, month, day, clock := some clock }

/-- Whether a text is a timestamp by its form alone; a date alone has all its digits. -/
def isPlain (s : List Char) : Bool :=
  match parse? s with
  | some t => t.clock.isSome || s.length == 10
  | none => false

end Timestamp

end DomainCompiler.Yaml

import DomainCompiler.Text.Printable
import DomainCompiler.Value.Basic

/-!
# Values shown in messages

A value that cannot stand as it is in a message is shown by an expression that names it.
-/

namespace DomainCompiler.Value

open DomainCompiler.Text

/-- A byte inside quotes. -/
def shownByte (quote : Char) (b : UInt8) : List Char :=
  let n := b.toNat
  let c := Char.ofNat n
  if c == quote || c == '\\' then ['\\', c]
  else if c == '\n' then ['\\', 'n']
  else if c == '\r' then ['\\', 'r']
  else if c == '\t' then ['\\', 't']
  else if 0x20 ≤ n && n < 0x7F then [c]
  else '\\' :: 'x' :: hex 2 n

def shownBytes (bs : List UInt8) : String :=
  let q := if bs.contains 39 && !bs.contains 34 then '"' else '\''
  String.ofList ('b' :: q :: bs.flatMap (shownByte q) ++ [q])

def listed (parts : List String) : String :=
  ", ".intercalate parts

def shownDate (d : Date) : List String :=
  [Decimal.ofInt d.year, Decimal.ofInt d.month, Decimal.ofInt d.day]

/-- A span of minutes as days and seconds. -/
def shownSpan (minutes : Int) : String :=
  let seconds := minutes * 60
  let days := seconds.fdiv 86400
  let rest := seconds.fmod 86400
  let parts :=
    (if days = 0 then [] else ["days=" ++ Decimal.ofInt days]) ++
      (if rest = 0 then [] else ["seconds=" ++ Decimal.ofInt rest])
  "datetime.timedelta(" ++ (if parts.isEmpty then "0" else listed parts) ++ ")"

def shownZone (minutes : Int) : String :=
  if minutes = 0 then "datetime.timezone.utc"
  else "datetime.timezone(" ++ shownSpan minutes ++ ")"

def shownMoment (m : Moment) : String :=
  let clock :=
    if m.second = 0 ∧ m.microsecond = 0 then [m.hour, m.minute]
    else if m.microsecond = 0 then [m.hour, m.minute, m.second]
    else [m.hour, m.minute, m.second, m.microsecond]
  let zone := match m.offset with
    | some minutes => ["tzinfo=" ++ shownZone minutes]
    | none => []
  "datetime.datetime(" ++
    listed (shownDate m.date ++ clock.map (fun n : Nat => Decimal.ofInt n) ++ zone) ++ ")"

/-- A scalar as an expression. -/
def shownScalar : Value → String
  | .null => "None"
  | .bool b => if b then "True" else "False"
  | .int n => Decimal.ofInt n
  | .float x => Decimal.ofBinary64 .standard x
  | .text s => quoted s
  | .date d _ => "datetime.date(" ++ listed (shownDate d) ++ ")"
  | .moment m _ => shownMoment m
  | .bytes bs => shownBytes bs
  | _ => "..."

mutual

/-- A value as an expression. -/
def shown : Value → String
  | .set [] _ => "set()"
  | .set (m :: members) _ => "\x7b" ++ listed (shownItems (m :: members)) ++ "\x7d"
  | .list items => "[" ++ listed (shownItems items) ++ "]"
  | .map entries => "\x7b" ++ listed (shownEntries entries) ++ "\x7d"
  | v => shownScalar v

def shownItems : List Value → List String
  | [] => []
  | v :: rest => shown v :: shownItems rest

def shownEntries : List (Value × Value) → List String
  | [] => []
  | (key, v) :: rest => (shown key ++ ": " ++ shown v) :: shownEntries rest

end

/-- A value inside a sentence: a text as it stands, anything else as an expression. -/
def told : Value → String
  | .text s => s
  | v => v.shown

end DomainCompiler.Value

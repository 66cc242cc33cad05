import DomainCompiler.Text.Case
import DomainCompiler.Text.Digit
import DomainCompiler.Yaml.Tag

/-!
# Values of scalars

What the text of a scalar writes under its tag. A tag may ask for a type that the text does not
write.
-/

namespace DomainCompiler.Yaml.Scalar

def fails {α : Type} (e : ScalarError) : Except Fault α :=
  .error (.scalar e)

def withoutUnderscores (s : List Char) : List Char :=
  s.filter (· != '_')

/-- The letter that a number of the base may begin with, behind a zero. -/
def baseMark (base : Nat) (c : Char) : Bool :=
  (base == 2 && (c == 'b' || c == 'B')) || (base == 8 && (c == 'o' || c == 'O')) ||
    (base == 16 && (c == 'x' || c == 'X'))

def withoutMark (base : Nat) : List Char → List Char
  | '0' :: c :: rest => if baseMark base c then rest else '0' :: c :: rest
  | s => s

/-- Whether decimal digits are too many to be read; in other bases any number of them is read. -/
def isTooLong (base : Nat) (digits : List Char) : Bool :=
  base == 10 && Decimal.digitLimit < digits.length && digits.all Char.isDigit

/-- A whole number of the base, with an optional sign and blanks around it. -/
def whole (base : Nat) (s : List Char) : Except Fault Int :=
  let (negative, rest) := Decimal.splitSign (Text.plainNumber s)
  let digits := withoutMark base rest
  if isTooLong base digits then fails (.tooLong digits.length)
  else
    match Decimal.readNat? base digits with
    | some n => .ok (if negative then -(n : Int) else n)
    | none => fails (.whole base (String.ofList s))

/-- The parts of a number in base sixty, the last one first, as one number. -/
def sixties : List Int → Int
  | [] => 0
  | n :: rest => n + 60 * sixties rest

/-- A whole number without its sign. -/
def unsignedWhole (s : List Char) : Except Fault Int :=
  match s with
  | [] => fails .empty
  | ['0'] => .ok 0
  | '0' :: 'b' :: rest => whole 2 rest
  | '0' :: 'x' :: rest => whole 16 rest
  | '0' :: _ => whole 8 s
  | _ =>
    if s.contains ':' then do
      let parts ← (s.splitOn ':').mapM (whole 10)
      return sixties parts.reverse
    else whole 10 s

/-- The number of a scalar that has a sign in front of the text. -/
def int (text : String) : Except Fault Value :=
  match withoutUnderscores text.toList with
  | [] => fails .empty
  | s => do
    let (negative, digits) := Decimal.splitSign s
    let n ← unsignedWhole digits
    return .int (if negative then -n else n)

def wordNumber? (s : String) : Option Binary64 :=
  if s == "inf" || s == "infinity" then some (.infinite false)
  else if s == "nan" then some .nan
  else none

/-- A number with an optional sign and blanks around it. -/
def decimal (s : List Char) : Except Fault Binary64 :=
  let (negative, rest) := Decimal.splitSign (Text.plainNumber s)
  match wordNumber? (String.ofList rest), Decimal.readUnsigned negative rest with
  | some x, _ => .ok (if negative then x.neg else x)
  | none, some x => .ok x
  | none, none => fails (.decimal (String.ofList s))

/--
The parts of a number in base sixty, the last one first, summed up from the last one; the unit of
each part has to be a number itself.
-/
def sixtiesFrom (sum : Binary64) (unit : Nat) : List Binary64 → Except Fault Binary64
  | [] => .ok sum
  | x :: rest =>
    let u := Binary64.ofNat unit
    if u.isFinite then sixtiesFrom (sum.add (x.mul u)) (unit * 60) rest else fails .overflow

/-- The text of a number in lower case without underscores: whether it is negative, and the rest. -/
def floatText (text : String) : Bool × List Char :=
  Decimal.splitSign (withoutUnderscores (Text.lower text.toList))

def undefinedWord : List Char := ".nan".toList

/-- A number without its sign. -/
def unsignedFloat (s : List Char) : Except Fault Binary64 :=
  if s == ".inf".toList then .ok (.infinite false)
  else if s == undefinedWord then .ok .nan
  else if s.contains ':' then do
    let parts ← (s.splitOn ':').mapM decimal
    sixtiesFrom (Binary64.ofNat 0) 1 parts.reverse
  else decimal s

def float (text : String) : Except Fault Value :=
  match withoutUnderscores (Text.lower text.toList) with
  | [] => fails .empty
  | _ => do
    let (negative, digits) := floatText text
    let x ← unsignedFloat digits
    return .float (if negative then x.neg else x)

/--
Whether a value equals nothing but itself: an undefined number is the same as another one only
where both are written as the word for it.
-/
def isAlone (text : String) : Value → Bool
  | .float .nan => (floatText text).2 != undefinedWord
  | _ => false

def bool (text : String) : Except Fault Value :=
  let word := String.ofList (Text.lower text.toList)
  if ["yes", "true", "on"].contains word then .ok (.bool true)
  else if ["no", "false", "off"].contains word then .ok (.bool false)
  else fails (.truth word)

/-- A date, or a moment where the timestamp has a time of day. -/
def timestamp (site : Nat) (text : String) : Except Fault Value :=
  match Timestamp.parse? (Tag.withoutFinalBreak text.toList) with
  | none => fails .moment
  | some t =>
    let date := Date.make t.year t.month t.day
    match t.clock with
    | none => (date.mapError fun e => Fault.scalar (.calendar e)).map (.date · site)
    | some c =>
      ((Moment.make date c.hour c.minute c.second c.microsecond c.offset).mapError
        fun e => Fault.scalar (.calendar e)).map (.moment · site)

/-- The six bits of a character of base 64. -/
def sixBits? (c : Char) : Option Nat :=
  if c.isUpper then some (c.toNat - 65)
  else if c.isLower then some (c.toNat - 71)
  else if c.isDigit then some (c.toNat + 4)
  else if c == '+' then some 62
  else if c == '/' then some 63
  else none

/--
The bytes of base 64, given how many characters of a group of four were read, the bits left from
the last one and the number of padding characters. Other characters do not count; a group ends
with its padding, and an unfinished one is an error.
-/
def base64 (filled left pads : Nat) : List Char → Option (List UInt8)
  | [] => if filled == 0 then some [] else none
  | c :: rest =>
    if c == '=' then
      if 2 ≤ filled && 4 ≤ filled + pads + 1 then some []
      else base64 filled left (if 2 ≤ filled then pads + 1 else pads) rest
    else
      match sixBits? c with
      | none => base64 filled left pads rest
      | some n =>
        match filled with
        | 0 => base64 1 n 0 rest
        | 1 => (base64 2 (n % 16) 0 rest).map (UInt8.ofNat (left * 4 + n / 16) :: ·)
        | 2 => (base64 3 (n % 4) 0 rest).map (UInt8.ofNat (left * 16 + n / 4) :: ·)
        | _ => (base64 0 0 0 rest).map (UInt8.ofNat (left * 64 + n) :: ·)

def binary (text : String) : Except Fault Value :=
  let cs := text.toList
  if cs.all fun c => c.toNat < 0x80 then
    match base64 0 0 0 cs with
    | some bytes => .ok (.bytes bytes)
    | none => .error (.malformed .base64)
  else .error (.malformed .base64)

/-- The value of a scalar; collections have other tags. -/
def read (tag : Tag) (site : Nat) (text : String) : Except Fault Value :=
  match tag with
  | .null => .ok .null
  | .bool => bool text
  | .int => int text
  | .float => float text
  | .timestamp => timestamp site text
  | .binary => binary text
  | .text => .ok (.text text)
  | _ => .error (.malformed .tagUnknown)

end DomainCompiler.Yaml.Scalar

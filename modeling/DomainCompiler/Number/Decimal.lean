import DomainCompiler.Number.Shortest

/-!
# Numbers as decimal text

How numbers are written, and how decimal texts are read. The decisions on the written form of a
double precision number are gathered in one record.
-/

namespace DomainCompiler

/-- The decisions on the written form of a double precision number. -/
structure FloatStyle where
  /-- The least position of the decimal point that is written without an exponent. -/
  leastPoint : Int
  /-- The greatest one. -/
  greatestPoint : Int
  /-- The number of digits that an exponent has at least. -/
  exponentDigits : Nat
  infinity : String
  undefined : String

namespace FloatStyle

/--
Numbers from 0.0001 to below 10^16 are written positionally, with at least one digit behind the
point; an exponent has a sign and at least two digits.
-/
def standard : FloatStyle :=
  { leastPoint := -3, greatestPoint := 16, exponentDigits := 2,
    infinity := "inf", undefined := "nan" }

end FloatStyle

namespace Decimal

/-- The number of decimal digits that a whole number is read and written with at most. -/
def digitLimit : Nat := 4300

def isLong (n : Int) : Bool :=
  Nat.pow 10 digitLimit ≤ n.natAbs

def ofNat (n : Nat) : List Char :=
  Nat.toDigits 10 n

def ofInt : Int → String
  | .ofNat n => String.ofList (ofNat n)
  | .negSucc n => String.ofList ('-' :: ofNat (n + 1))

def padZeros (width : Nat) (digits : List Char) : List Char :=
  List.replicate (width - digits.length) '0' ++ digits

/-- A positive number without an exponent. -/
def positional (form : Binary64.DecimalForm) : List Char :=
  if form.point ≤ 0 then
    '0' :: '.' :: List.replicate (-form.point).toNat '0' ++ form.digits
  else if form.digits.length ≤ form.point.toNat then
    form.digits ++ List.replicate (form.point.toNat - form.digits.length) '0' ++ ['.', '0']
  else
    form.digits.take form.point.toNat ++ '.' :: form.digits.drop form.point.toNat

/-- A positive number with an exponent. -/
def scientific (style : FloatStyle) (form : Binary64.DecimalForm) : List Char :=
  let e := form.point - 1
  let mantissa :=
    match form.digits with
    | [] => []
    | [d] => [d]
    | d :: rest => d :: '.' :: rest
  mantissa ++ 'e' :: (if e < 0 then '-' else '+') :: padZeros style.exponentDigits (ofNat e.natAbs)

/-- A number without its sign. -/
def magnitude (style : FloatStyle) (significand : Nat) (exponent : Int) : List Char :=
  if significand = 0 then "0.0".toList
  else
    let form := Binary64.shortest significand exponent
    if style.leastPoint ≤ form.point && form.point ≤ style.greatestPoint then positional form
    else scientific style form

/-- The text of a double precision number. -/
def ofBinary64 (style : FloatStyle) : Binary64 → String
  | .finite false m e => String.ofList (magnitude style m e)
  | .finite true m e => String.ofList ('-' :: magnitude style m e)
  | .infinite false => style.infinity
  | .infinite true => String.ofList ('-' :: style.infinity.toList)
  | .nan => style.undefined

/-- The value of a digit of a base up to 36. -/
def digitValue? (c : Char) : Option Nat :=
  if c.isDigit then some (c.toNat - 48)
  else if c.isLower then some (c.toNat - 87)
  else if c.isUpper then some (c.toNat - 55)
  else none

/-- The value of a non-empty run of digits, continued from `acc`. -/
def readDigits (base : Nat) (acc : Nat) : List Char → Option Nat
  | [] => some acc
  | c :: rest =>
    match digitValue? c with
    | some d => if d < base then readDigits base (acc * base + d) rest else none
    | none => none

/-- The natural number that the digits write, at least one of them. -/
def readNat? (base : Nat) (s : List Char) : Option Nat :=
  if s.isEmpty then none else readDigits base 0 s

def spanDigits (s : List Char) : List Char × List Char :=
  (s.takeWhile Char.isDigit, s.dropWhile Char.isDigit)

/-- A sign in front of the text: whether it is a minus, and the text behind it. -/
def splitSign : List Char → Bool × List Char
  | '-' :: rest => (true, rest)
  | '+' :: rest => (false, rest)
  | s => (false, s)

/-- The exponent part `e…` at the end of a number; an absent one is zero. -/
def readExponent : List Char → Option Int
  | [] => some 0
  | c :: rest =>
    if c == 'e' || c == 'E' then
      let (negative, digits) := splitSign rest
      (readNat? 10 digits).map fun n => if negative then -(n : Int) else (n : Int)
    else none

/--
Reads an unsigned decimal number with a point or an exponent or neither: digits, a point and more
digits, at least one digit in all, then an exponent.
-/
def readUnsigned (negative : Bool) (s : List Char) : Option Binary64 :=
  let (whole, rest) := spanDigits s
  let (fraction, rest) :=
    match rest with
    | '.' :: more => spanDigits more
    | _ => ([], rest)
  if whole.isEmpty && fraction.isEmpty then none
  else
    match readExponent rest, readNat? 10 (whole ++ fraction) with
    | some e, some n => some (Binary64.ofDecimal negative n (e - fraction.length))
    | _, _ => none

def readBinary64? (s : List Char) : Option Binary64 :=
  let (negative, rest) := splitSign s
  readUnsigned negative rest

def readInt? (base : Nat) (s : List Char) : Option Int :=
  let (negative, digits) := splitSign s
  (readNat? base digits).map fun n => if negative then -(n : Int) else (n : Int)

end Decimal

end DomainCompiler

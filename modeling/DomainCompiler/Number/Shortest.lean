import DomainCompiler.Number.Binary64

/-!
# The fewest digits that read back

A finite number stands for an interval of reals: those that round to it. Its decimal form is the
point of the coarsest decimal grid that has a point in that interval; of two points the nearer
one, and of two equally near ones the even one.
-/

namespace DomainCompiler.Binary64

/-- A positive number written as `digits * 10 ^ (point - size)`, with `size` digits. -/
structure DecimalForm where
  digits : List Char
  /-- Where the decimal point stands, counted from before the first digit. -/
  point : Int
  deriving DecidableEq, Repr

/--
The reals that round to a number, over the common denominator `den`: from `low` to `high`, with
the number itself at `mid`; the ends belong to it when `closed`.
-/
structure Interval where
  low : Nat
  mid : Nat
  high : Nat
  den : Nat
  closed : Bool

/-- The reals that round to `significand * 2 ^ exponent`. -/
def interval (significand : Nat) (exponent : Int) : Interval :=
  let lower := if significand = Nat.pow 2 52 ∧ -1074 < exponent then 1 else 2
  let unit := ratio 1 (exponent - 2)
  { low := (4 * significand - lower) * unit.1
    mid := 4 * significand * unit.1
    high := (4 * significand + 2) * unit.1
    den := unit.2
    closed := significand % 2 == 0 }

/-- Whether the point `k * num / den` lies in the interval. -/
def Interval.hasPoint (i : Interval) (k num den : Nat) : Bool :=
  let p := k * num * i.den
  if i.closed then i.low * den ≤ p && p ≤ i.high * den
  else i.low * den < p && p < i.high * den

/-- The multiple of `num / den` in the interval that is nearest to its middle. -/
def Interval.nearest? (i : Interval) (num den : Nat) : Option Nat :=
  let below := i.mid * den / (i.den * num)
  let above := below + 1
  match i.hasPoint below num den, i.hasPoint above num den with
  | false, false => none
  | true, false => some below
  | false, true => some above
  | true, true =>
    let twice := 2 * (i.mid * den)
    let middle := (below + above) * num * i.den
    if twice < middle then some below
    else if middle < twice then some above
    else if below % 2 = 0 then some below else some above

/-- The number of digits before the point of `num / den`, negative for leading zeros. -/
def leadingPlaces (num den : Nat) : Int :=
  let estimate : Int :=
    ((Nat.toDigits 10 num).length : Int) - ((Nat.toDigits 10 den).length : Int)
  let atLeast (p : Int) : Bool :=
    if 0 ≤ p then den * Nat.pow 10 p.toNat ≤ num else den ≤ num * Nat.pow 10 (-p).toNat
  if atLeast estimate then estimate + 1 else estimate

/-- The unit of the grid with `size` digits for a number with `places` before the point. -/
def gridUnit (places : Int) (size : Nat) : Nat × Nat :=
  let e := places - size
  if 0 ≤ e then (Nat.pow 10 e.toNat, 1) else (1, Nat.pow 10 (-e).toNat)

/-- The first of the grids from `size` digits on, `fuel` of them, that has a point: it and its
size. -/
def firstGrid (i : Interval) (places : Int) : Nat → Nat → Nat × Nat
  | 0, size => (0, size)
  | fuel + 1, size =>
    let unit := gridUnit places size
    match i.nearest? unit.1 unit.2 with
    | some (k + 1) => (k + 1, size)
    | _ => firstGrid i places fuel (size + 1)

/-- The shortest decimal form of a positive finite number. -/
def shortest (significand : Nat) (exponent : Int) : DecimalForm :=
  let i := interval significand exponent
  let places := leadingPlaces i.mid i.den
  let (point, size) := firstGrid i places 17 1
  let text := Nat.toDigits 10 point
  { digits := (text.reverse.dropWhile (· == '0')).reverse
    point := places + ((text.length : Int) - (size : Int)) }

end DomainCompiler.Binary64

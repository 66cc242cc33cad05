import DomainCompiler.Number.Rounding

/-!
# Binary numbers of double precision

A finite number is `significand * 2 ^ exponent` with a sign; the significand has at most 53
binary digits and the exponent is at least -1074. Arithmetic is exact rational arithmetic followed
by rounding to the nearest number, ties to the even significand.
-/

namespace DomainCompiler

/-- A number of IEEE double precision; all undefined results are one value. -/
inductive Binary64 where
  | finite (negative : Bool) (significand : Nat) (exponent : Int)
  | infinite (negative : Bool)
  | nan
  deriving DecidableEq, Repr, Inhabited

namespace Binary64

/-- The fraction `num / den / 2 ^ e` as numerator and denominator. -/
def scaleDown (num den : Nat) (e : Int) : Nat × Nat :=
  if 0 ≤ e then (num, den * Nat.pow 2 e.toNat) else (num * Nat.pow 2 (-e).toNat, den)

/-- The exponent whose unit gives the fraction 53 binary digits, or the least exponent. -/
def unitExponent (num den : Nat) : Int :=
  let start : Int := max ((num.log2 : Int) - (den.log2 : Int) - 53) (-1074)
  let scaled := scaleDown num den start
  if Nat.pow 2 53 ≤ scaled.1 / scaled.2 then start + 1 else start

/-- The number with the significand and the exponent, carried over where it overflows. -/
def ofParts (negative : Bool) (significand : Nat) (exponent : Int) : Binary64 :=
  let carried := Nat.pow 2 53 ≤ significand
  let m := if carried then significand / 2 else significand
  let e := if carried then exponent + 1 else exponent
  if 971 < e then .infinite negative else .finite negative m e

/-- The nearest number to `num / den`, for a positive denominator. -/
def ofRatio (negative : Bool) (num den : Nat) : Binary64 :=
  if num = 0 then .finite negative 0 (-1074)
  else
    let e := unitExponent num den
    let scaled := scaleDown num den e
    ofParts negative (Rounding.halfEven scaled.1 scaled.2) e

/-- The nearest number to `digits * 10 ^ exponent`. -/
def ofDecimal (negative : Bool) (digits : Nat) (exponent : Int) : Binary64 :=
  let size : Int := (Nat.toDigits 10 digits).length
  if digits = 0 then ofRatio negative 0 1
  else if 310 < exponent + size then .infinite negative
  else if exponent + size < -330 then ofRatio negative 0 1
  else if 0 ≤ exponent then ofRatio negative (digits * Nat.pow 10 exponent.toNat) 1
  else ofRatio negative digits (Nat.pow 10 (-exponent).toNat)

def ofNat (n : Nat) : Binary64 :=
  ofRatio false n 1

def ratio (significand : Nat) (exponent : Int) : Nat × Nat :=
  if 0 ≤ exponent then (significand * Nat.pow 2 exponent.toNat, 1)
  else (significand, Nat.pow 2 (-exponent).toNat)

def neg : Binary64 → Binary64
  | .finite s m e => .finite (!s) m e
  | .infinite s => .infinite (!s)
  | .nan => .nan

def signed (negative : Bool) (n : Nat) : Int :=
  if negative then -(n : Int) else n

/-- The sum; opposite infinities have none, and zero is negative only as a sum of negative zeros. -/
def add : Binary64 → Binary64 → Binary64
  | .finite s m e, .finite t n f =>
    let a := ratio m e
    let b := ratio n f
    let sum := signed s (a.1 * b.2) + signed t (b.1 * a.2)
    if sum = 0 then ofRatio (s && t) 0 1 else ofRatio (decide (sum < 0)) sum.natAbs (a.2 * b.2)
  | .finite .., .infinite t => .infinite t
  | .infinite s, .finite .. => .infinite s
  | .infinite s, .infinite t => if s = t then .infinite s else .nan
  | .nan, _ => .nan
  | _, .nan => .nan

/-- The product; zero and infinity have none. -/
def mul : Binary64 → Binary64 → Binary64
  | .finite s m e, .finite t n f =>
    let a := ratio m e
    let b := ratio n f
    ofRatio (s != t) (a.1 * b.1) (a.2 * b.2)
  | .finite s m _, .infinite t => if m = 0 then .nan else .infinite (s != t)
  | .infinite s, .finite t n _ => if n = 0 then .nan else .infinite (s != t)
  | .infinite s, .infinite t => .infinite (s != t)
  | .nan, _ => .nan
  | _, .nan => .nan

/-- The whole number equal to this one, where there is one. -/
def toInt? : Binary64 → Option Int
  | .finite s m e =>
    let a := ratio m e
    if a.1 % a.2 = 0 then some (if s then -((a.1 / a.2 : Nat) : Int) else ((a.1 / a.2 : Nat) : Int))
    else none
  | _ => none

def isFinite : Binary64 → Bool
  | .finite .. => true
  | _ => false

end Binary64

end DomainCompiler

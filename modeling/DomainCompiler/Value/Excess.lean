import DomainCompiler.Value.Show

/-!
# Values without a written form

A whole number of too many digits and a collection that contains itself are values like others,
but no text can hold them.
-/

namespace DomainCompiler

/-- Why a value cannot be written in any form. -/
inductive Excess where
  /-- A whole number of too many digits. -/
  | digits
  /-- A collection that contains itself. -/
  | endless
  deriving DecidableEq, Repr

namespace Excess

def limitText : String :=
  "Exceeds the limit (" ++ String.ofList (Decimal.ofNat Decimal.digitLimit) ++
    " digits) for integer string conversion"

def limitAdvice : String :=
  "; use sys.set_int_max_str_digits() to increase the limit"

def message : Excess → String
  | .digits => limitText ++ limitAdvice
  | .endless => "maximum recursion depth exceeded"

end Excess

namespace Value

/-- What the value itself has too much of, whatever it holds. -/
def ownExcess? : Value → Option Excess
  | .int n => if Decimal.isLong n then some .digits else none
  | .endless => some .endless
  | _ => none

mutual

/-- The first excess of a kind that counts, in the order of writing. -/
def firstExcess? (counts : Excess → Bool) : Value → Option Excess
  | .set members _ => firstOfItems? counts members
  | .list items => firstOfItems? counts items
  | .map entries => firstOfEntries? counts entries
  | v => v.ownExcess?.filter counts

def firstOfItems? (counts : Excess → Bool) : List Value → Option Excess
  | [] => none
  | v :: rest =>
    match firstExcess? counts v with
    | some e => some e
    | none => firstOfItems? counts rest

def firstOfEntries? (counts : Excess → Bool) : List (Value × Value) → Option Excess
  | [] => none
  | (key, v) :: rest =>
    match firstExcess? counts key with
    | some e => some e
    | none =>
      match firstExcess? counts v with
      | some e => some e
      | none => firstOfEntries? counts rest

end

def excess? (v : Value) : Option Excess :=
  v.firstExcess? fun _ => true

def isEndless (v : Value) : Bool :=
  (v.firstExcess? (· == .endless)).isSome

end Value

end DomainCompiler

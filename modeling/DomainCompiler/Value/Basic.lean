import DomainCompiler.Number.Binary64
import DomainCompiler.Value.Calendar

/-!
# Values

The data that a document holds before it is known to be a description: scalars, lists and
mappings that keep the order in which their keys were written. Dates, moments and sets carry the
site they were read at, because a writer refers back to a value that it has written already.
-/

namespace DomainCompiler

inductive Value where
  | null
  | bool (b : Bool)
  | int (n : Int)
  | float (x : Binary64)
  | text (s : String)
  | date (d : Date) (site : Nat)
  | moment (m : Moment) (site : Nat)
  | bytes (bs : List UInt8)
  | set (members : List Value) (site : Nat)
  | list (items : List Value)
  | map (entries : List (Value × Value))
  /-- What a collection that contains itself holds, from some depth on. -/
  | endless
  deriving Repr, Inhabited

namespace Value

/-- The number that a number or a truth value stands for as a key. -/
def number? : Value → Option (Sum Int Binary64)
  | .bool b => some (.inl (if b then 1 else 0))
  | .int n => some (.inl n)
  | .float x =>
    match x.toInt? with
    | some n => some (.inl n)
    | none => some (.inr x)
  | _ => none

/--
Whether two scalars are the same key: numbers by their value, `true` as one and `false` as zero,
moments as points in time.
-/
def sameKey : Value → Value → Bool
  | .null, .null => true
  | .text a, .text b => a == b
  | .bytes a, .bytes b => a == b
  | .date a _, .date b _ => a == b
  | .moment a _, .moment b _ => a.same b
  | a, b =>
    match a.number?, b.number? with
    | some x, some y => decide (x = y)
    | _, _ => false

/-- Sets the entry of a key in place, or adds it at the end. -/
def setEntry (key value : Value) : List (Value × Value) → List (Value × Value)
  | [] => [(key, value)]
  | (k, v) :: rest =>
    if k.sameKey key then (k, value) :: rest else (k, v) :: setEntry key value rest

/-- A mapping from entries in order; of a repeated key the first place and the last value count. -/
def mapOfEntries (entries : List (Value × Value)) : List (Value × Value) :=
  entries.foldl (fun m e => setEntry e.1 e.2 m) []

def distinct (members : List Value) : List Value :=
  (mapOfEntries (members.map fun m => (m, .null))).map (·.1)

/-- The value of a text key. -/
def entry? (key : String) : List (Value × Value) → Option Value
  | [] => none
  | (k, v) :: rest =>
    match k with
    | .text s => if s == key then some v else entry? key rest
    | _ => entry? key rest

def record (entries : List (String × Value)) : Value :=
  .map (entries.map fun e => (.text e.1, e.2))

def texts (items : List String) : Value :=
  .list (items.map .text)

def textOrNull : Option String → Value
  | some s => .text s
  | none => .null

@[simp] theorem entry?_nil (key : String) : entry? key [] = none := rfl

@[simp] theorem entry?_cons_text (key s : String) (v : Value) (rest : List (Value × Value)) :
    entry? key ((.text s, v) :: rest) = if s == key then some v else entry? key rest := rfl

end Value

end DomainCompiler

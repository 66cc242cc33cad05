import DomainCompiler.Value.Basic
import DomainCompiler.Yaml.Tag

/-!
# Values as they are written

The form of a value has its scalars as texts. A date, a moment or a set that stands at several
places is written once with a number, and is referred to by that number afterwards.
-/

namespace DomainCompiler.Yaml

inductive Form where
  | reference (number : Nat)
  | scalar (number : Option Nat) (tag : Tag) (text : List Char)
  | sequence (items : List Form)
  | mapping (number : Option Nat) (tag : Tag) (entries : List (Form × Form))
  deriving Repr

/-- Sites met while a value is looked through. -/
structure Sites where
  seen : List Nat
  /-- Sites that were met again, in the order of the second meeting. -/
  shared : List Nat

namespace Sites

def none : Sites := ⟨[], []⟩

/-- Whether the site is met for the first time, and the sites with it. -/
def meet (site : Nat) (s : Sites) : Bool × Sites :=
  if s.seen.contains site then
    (false, if s.shared.contains site then s else { s with shared := s.shared ++ [site] })
  else (true, { s with seen := site :: s.seen })

def number? (s : Sites) (site : Nat) : Option Nat :=
  (s.shared.findIdx? (· == site)).map (· + 1)

mutual

/-- The sites met in a value, after those already met. -/
def ofValue (s : Sites) : Value → Sites
  | .date _ site => (s.meet site).2
  | .moment _ site => (s.meet site).2
  | .set members site =>
    match s.meet site with
    | (true, s) => ofValues s members
    | (false, s) => s
  | .list items => ofValues s items
  | .map entries => ofEntries s entries
  | .null => s
  | .bool _ => s
  | .int _ => s
  | .float _ => s
  | .text _ => s
  | .bytes _ => s
  | .endless => s

def ofValues (s : Sites) : List Value → Sites
  | [] => s
  | v :: rest => ofValues (ofValue s v) rest

def ofEntries (s : Sites) : List (Value × Value) → Sites
  | [] => s
  | (k, v) :: rest => ofEntries (ofValue (ofValue s k) v) rest

end

end Sites

namespace Form

/-- The decisions on numbers with a point: an exponent stands behind a point. -/
def floatText (x : Binary64) : List Char :=
  match x with
  | .nan => ".nan".toList
  | .infinite false => ".inf".toList
  | .infinite true => "-.inf".toList
  | x =>
    let s := (Decimal.ofBinary64 .standard x).toList
    if s.contains '.' then s
    else s.takeWhile (· != 'e') ++ (if s.contains 'e' then ['.', '0'] else []) ++
      s.dropWhile (· != 'e')

/-- The character of six bits. -/
def sixBitChar (n : Nat) : Char :=
  if n < 26 then Char.ofNat (65 + n)
  else if n < 52 then Char.ofNat (71 + n)
  else if n < 62 then Char.ofNat (n - 4)
  else if n == 62 then '+'
  else '/'

/-- Bytes in base 64. -/
def base64 : List UInt8 → List Char
  | [] => []
  | [a] =>
    let n := a.toNat * 16
    [sixBitChar (n / 64), sixBitChar (n % 64), '=', '=']
  | [a, b] =>
    let n := (a.toNat * 256 + b.toNat) * 4
    [sixBitChar (n / 4096), sixBitChar (n / 64 % 64), sixBitChar (n % 64), '=']
  | a :: b :: c :: rest =>
    let n := (a.toNat * 256 + b.toNat) * 256 + c.toNat
    sixBitChar (n / 262144) :: sixBitChar (n / 4096 % 64) :: sixBitChar (n / 64 % 64) ::
      sixBitChar (n % 64) :: base64 rest

/-- Lines of at most 76 characters, each with its end; `room` is what is left on the line. -/
def brokenLines (room : Nat) : List Char → List Char
  | [] => if room < 76 then ['\n'] else []
  | c :: rest =>
    match room with
    | 0 => '\n' :: c :: brokenLines 75 rest
    | n + 1 => c :: brokenLines n rest

/-- Writes a value at a site: as a reference where it was written before. -/
def atSite (sites : Sites) (written : List Nat) (site : Nat) (first : Option Nat → Form) :
    Form × List Nat :=
  let number := sites.number? site
  match number, written.contains site with
  | some n, true => (.reference n, written)
  | _, _ => (first number, site :: written)

mutual

/-- The form of a value, and the sites written after those already written. -/
def ofValue (sites : Sites) (written : List Nat) : Value → Form × List Nat
  | .null => (.scalar none .null "null".toList, written)
  | .bool b => (.scalar none .bool (if b then "true" else "false").toList, written)
  | .int n => (.scalar none .int (Decimal.ofInt n).toList, written)
  | .float x => (.scalar none .float (floatText x), written)
  | .text s => (.scalar none .text s.toList, written)
  | .date d site => atSite sites written site fun n => .scalar n .timestamp d.text.toList
  | .moment m site => atSite sites written site fun n => .scalar n .timestamp (m.text " ").toList
  | .bytes bs => (.scalar none .binary (brokenLines 76 (base64 bs)), written)
  | .set members site =>
    match sites.number? site, written.contains site with
    | some n, true => (.reference n, written)
    | number, _ =>
      let (ms, written) := ofMembers sites (site :: written) members
      (.mapping number .set ms, written)
  | .list items =>
    let (forms, written) := ofValues sites written items
    (.sequence forms, written)
  | .map entries =>
    let (forms, written) := ofEntries sites written entries
    (.mapping none .map forms, written)
  | .endless => (.sequence [], written)

def ofValues (sites : Sites) (written : List Nat) : List Value → List Form × List Nat
  | [] => ([], written)
  | v :: rest =>
    let (form, written) := ofValue sites written v
    let (forms, written) := ofValues sites written rest
    (form :: forms, written)

/-- Members of a set are keys without values. -/
def ofMembers (sites : Sites) (written : List Nat) : List Value → List (Form × Form) × List Nat
  | [] => ([], written)
  | v :: rest =>
    let (form, written) := ofValue sites written v
    let (forms, written) := ofMembers sites written rest
    ((form, .scalar none .null "null".toList) :: forms, written)

def ofEntries (sites : Sites) (written : List Nat) :
    List (Value × Value) → List (Form × Form) × List Nat
  | [] => ([], written)
  | (k, v) :: rest =>
    let (key, written) := ofValue sites written k
    let (form, written) := ofValue sites written v
    let (forms, written) := ofEntries sites written rest
    ((key, form) :: forms, written)

end

def ofDocument (v : Value) : Form :=
  (ofValue (Sites.ofValue Sites.none v) [] v).1

end Form

end DomainCompiler.Yaml

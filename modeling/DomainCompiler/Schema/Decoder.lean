import DomainCompiler.Schema.Checked
import DomainCompiler.Text.Blank
import DomainCompiler.Value.Show

/-!
# Reading values under a schema

Each reader takes a value and gives what the schema makes of it. Texts are never made from other
scalars; truth values and whole numbers are also read from texts and numbers that plainly mean
them. A record is a mapping with a fixed vocabulary: every other key is a problem of its own.
-/

namespace DomainCompiler.Schema

open DomainCompiler.Text

abbrev Decoder (α : Type) := Value → Checked α

variable {α : Type}

def textOfBytes? (bs : List UInt8) : Option String :=
  String.fromUTF8? ⟨bs.toArray⟩

def text : Decoder String
  | .text s => .accepted s
  | .bytes bs =>
    match textOfBytes? bs with
    | some s => .accepted s
    | none => .fail .bytesNotText
  | _ => .fail .notText

def nonemptyText : Decoder String := fun v =>
  (text v).andThen fun s => if s.isEmpty then .fail (.textTooShort 1) else .accepted s

def nullable (read : Decoder α) : Decoder (Option α)
  | .null => .accepted none
  | v => (read v).map some

def anything : Decoder Value := .accepted

def strictBool : Decoder Bool
  | .bool b => .accepted b
  | _ => .fail .notBool

/-- The truth value that a word means. -/
def boolOfText? (s : String) : Option Bool :=
  let word := String.ofList (s.toList.map Char.toLower)
  if ["1", "t", "y", "on", "yes", "true"].contains word then some true
  else if ["0", "f", "n", "no", "off", "false"].contains word then some false
  else none

def boolOfText (s : String) : Checked Bool :=
  match boolOfText? s with
  | some b => .accepted b
  | none => .fail .unreadableBool

def leastShort : Int :=
  -9223372036854775808

/-- The range of whole numbers that are taken from other notations. -/
def inShortRange (n : Int) : Bool :=
  leastShort ≤ n && n < -leastShort

def boolOfInt (n : Int) : Checked Bool :=
  if n = 0 then .accepted false
  else if n = 1 then .accepted true
  else if inShortRange n then .fail .unreadableBool
  else .fail .notBool

/-- A truth value, or a number or a word that means one. -/
def bool : Decoder Bool
  | .bool b => .accepted b
  | .text s => boolOfText s
  | .bytes bs =>
    match textOfBytes? bs with
    | some s => boolOfText s
    | none => .fail .unreadableBool
  | .int n => boolOfInt n
  | .float x =>
    match x.toInt? with
    | some n => if n = leastShort then .fail .notBool else boolOfInt n
    | none => .fail .notBool
  | _ => .fail .notBool

def isNumberBlank (c : Char) : Bool :=
  isBlank c && !(0x1C ≤ c.toNat && c.toNat ≤ 0x1F)

def trimNumber (s : List Char) : List Char :=
  ((s.dropWhile isNumberBlank).reverse.dropWhile isNumberBlank).reverse

/--
The text from its first digit other than zero on, or from the zero in front of a point; the first
argument is the character read last, which stands for a text of zeros alone.
-/
def afterZeros : Char → List Char → Option (List Char)
  | last, [] => some [last]
  | last, c :: rest =>
    if c == '0' || c == '_' then afterZeros c rest
    else if c.isDigit then some (c :: rest)
    else if c == '.' then some (last :: c :: rest)
    else none

/-- The text without zeros in front; it has to begin with a digit or a minus. -/
def withoutLeadingZeros : List Char → Option (List Char)
  | [] => none
  | c :: rest =>
    if c == '0' then afterZeros c rest
    else if c.isDigit || c == '-' then some (c :: rest)
    else none

/-- The text without a point behind which there is nothing but zeros. -/
def withoutPoint (s : List Char) : List Char :=
  if ((s.dropWhile (· != '.')).drop 1).all (· == '0') then s.takeWhile (· != '.') else s

/-- Whether two underscores stand next to each other. -/
def hasDoubleUnderscore : List Char → Bool
  | '_' :: '_' :: _ => true
  | _ :: rest => hasDoubleUnderscore rest
  | [] => false

/-- The text without its underscores, where they are single ones between other characters. -/
def withoutUnderscores (s : List Char) : List Char :=
  if s.head? == some '_' || s.getLast? == some '_' || hasDoubleUnderscore s then s
  else s.filter (· != '_')

/-- The text without a plus in front, behind which no minus may stand. -/
def withoutPlus : List Char → Option (List Char)
  | '+' :: '-' :: _ => none
  | '+' :: rest => some rest
  | s => some s

/-- The text of a number in the plainest spelling: no blanks, no plus, no needless zeros. -/
def plainSpelling (s : List Char) : Option (List Char) := do
  let digits ← withoutLeadingZeros (← withoutPlus (trimNumber s))
  return withoutUnderscores (withoutPoint digits)

/-- Reads a minus and digits, which have no needless zero in front and are not too many. -/
def intOfDigits (s : List Char) : Checked Int :=
  let unsigned := if s.head? == some '-' then s.tail else s
  let (digits, rest) := Decimal.spanDigits unsigned
  let size := s.length - rest.length
  if digits.isEmpty || (digits.head? == some '0' && digits.length != 1) then .fail .unreadableInt
  else if Decimal.digitLimit < size then .fail .intTooLarge
  else
    match rest, Decimal.readInt? 10 s with
    | [], some n => .accepted n
    | _, _ => .fail .unreadableInt

/--
The whole number that a text means: blanks around it, a sign, zeros in front, underscores between
digits, and perhaps a point with nothing but zeros behind it.
-/
def intOfText (s : String) : Checked Int :=
  match plainSpelling s.toList with
  | some digits => intOfDigits digits
  | none => .fail .unreadableInt

/-- The words for numbers that have no digits, in any case. -/
def wordNumber? (s : List Char) : Option Binary64 :=
  let word := String.ofList (s.map Char.toLower)
  if word == "inf" || word == "infinity" then some (.infinite false)
  else if word == "nan" then some .nan
  else none

/-- A number of double precision with a sign. -/
def readFloat? (s : List Char) : Option Binary64 :=
  let (negative, rest) := Decimal.splitSign s
  match wordNumber? rest with
  | some x => some (if negative then x.neg else x)
  | none => Decimal.readUnsigned negative rest

/-- The number that a text means, with blanks around it or with underscores between digits. -/
def floatOfText? (s : String) : Option Binary64 :=
  (readFloat? (trimNumber s.toList)).or (readFloat? (withoutUnderscores s.toList))

/-- The whole number that a double precision number is. -/
def intOfFloat (x : Binary64) : Checked Int :=
  if x.isFinite then
    match x.toInt? with
    | some n => if inShortRange n && n != leastShort then .accepted n else .fail .intTooLarge
    | none => .fail .fraction
  else .fail .notFinite

/-- A whole number, or a number, a truth value or a text that means one. -/
def int : Decoder Int
  | .int n => .accepted n
  | .bool b => .accepted (if b then 1 else 0)
  | .float x => intOfFloat x
  | .text s => intOfText s
  | .bytes bs =>
    match textOfBytes? bs with
    | some s => intOfText s
    | none => .fail .unreadableInt
  | _ => .fail .notInt

/--
The items of a value that is read as a list. The members of a set come in the order in which they
are written; the order in which a set goes through its members is not known from the document.
-/
def itemsOf? : Value → Option (List Value)
  | .list items => some items
  | .set members _ => some members
  | _ => none

/-- Reads the items from the position on. -/
def readItems (read : Decoder α) : Nat → List Value → Checked (List α)
  | _, [] => .accepted []
  | position, item :: rest =>
    Checked.and ((read item |>.under (.index position)).map List.cons)
      (readItems read (position + 1) rest)

def list (read : Decoder α) : Decoder (List α) := fun v =>
  match itemsOf? v with
  | some items => readItems read 0 items
  | none => .fail .notList

def nonemptyList (read : Decoder α) : Decoder (List α) := fun v =>
  (list read v).andThen fun xs => if xs.isEmpty then .fail (.listTooShort 1) else .accepted xs

/-- A list that is not empty and of fixed length once read. -/
def nonemptyTuple (read : Decoder α) : Decoder (List α) := fun v =>
  match itemsOf? v with
  | some items =>
    (readItems read 0 items).andThen fun xs =>
      if xs.isEmpty then .fail (.tupleTooShort 1) else .accepted xs
  | none => .fail .notTuple

def oneOf (alternatives : List (String × α)) : Decoder α := fun v =>
  match (text v).value?.bind fun s => List.lookup s alternatives with
  | some a => .accepted a
  | none => .fail (.notOneOf (alternatives.map (·.1)))

/-- A key of a record: how descriptions spell it, and the name it may also be given by. -/
structure Key where
  spelling : String
  name : String
  deriving DecidableEq, Repr

namespace Key

def single (name : String) : Key := ⟨name, name⟩

/-- The spelling under which the entries hold the key, and its value. -/
def find? (k : Key) (entries : List (Value × Value)) : Option (String × Value) :=
  match Value.entry? k.spelling entries with
  | some v => some (k.spelling, v)
  | none => (Value.entry? k.name entries).map (k.name, ·)

def required (k : Key) (read : Decoder α) (entries : List (Value × Value)) : Checked α :=
  match k.find? entries with
  | some (spelling, v) => (read v).under (.key spelling)
  | none => .rejected [⟨[.key k.spelling], .missing⟩]

/-- A key that stands for `default` where it is not there. -/
def optional (k : Key) (read : Decoder α) (default : α) (entries : List (Value × Value)) :
    Checked α :=
  match k.find? entries with
  | some (spelling, v) => (read v).under (.key spelling)
  | none => .accepted default

end Key

/-- How a key that is no text is told. -/
def stepOfKey : Value → Step
  | .text s => .key s
  | .int n =>
    if inShortRange n then .index n
    else if Decimal.isLong n then .key "<unprintable int object>"
    else .key (Decimal.ofInt n)
  | .bool b => .index (if b then 1 else 0)
  | v => .key v.shown

/-- The problem of a key that is none of those that are used. Only texts are keys: unlike a value, a
key is not taken from bytes that encode a text. -/
def strayKey (used : List String) (key : Value) : Option Problem :=
  match key with
  | .text s => if used.contains s then none else some ⟨[stepOfKey key], .unknownKey⟩
  | _ => some ⟨[stepOfKey key], .keyNotText⟩

/-- The problems of the keys that the record does not read. -/
def strayKeys (keys : List Key) (entries : List (Value × Value)) : List Problem :=
  let used := keys.filterMap fun k => (k.find? entries).map (·.1)
  entries.filterMap fun e => strayKey used e.1

/-- A mapping that is read by its keys and has no other ones. -/
def record (title : String) (keys : List Key) (read : List (Value × Value) → Checked α) :
    Decoder α
  | .map entries => (read entries).withProblems (strayKeys keys entries)
  | _ => .fail (.notMapping title)

/--
The mapping with a second spelling of a key folded into the first. Nothing else than a mapping
is changed; where the key has a value already the two spellings are in conflict.
-/
def foldSpelling (key other : String) : Value → Checked Value
  | .map entries =>
    match Value.entry? other entries with
    | none => .accepted (.map entries)
    | some v =>
      match Value.entry? key entries with
      | none => .accepted (folded entries v)
      | some .null => .accepted (folded entries v)
      | some _ => .fail (.twoSpellings key other)
  | v => .accepted v
where
  /-- The entries without the second spelling, and its value under the first. -/
  folded (entries : List (Value × Value)) (v : Value) : Value :=
    .map (Value.setEntry (.text key) v
      (entries.filter fun e => !(e.1.sameKey (.text other))))

end DomainCompiler.Schema

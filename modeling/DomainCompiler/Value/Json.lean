import DomainCompiler.Value.Excess

/-!
# Values as JSON text

JSON has texts, numbers, truth values, null, lists and mappings with text keys; a value that
holds anything else cannot be written. Every character outside printable ASCII is escaped.
-/

namespace DomainCompiler

/-- What a JSON text has no form for. -/
inductive Unwritable where
  | date
  | moment
  | bytes
  | set
  | excess (excess : Excess)
  deriving DecidableEq, Repr

namespace Unwritable

def typeText (name : String) : String :=
  "Object of type " ++ name ++ " is not JSON serializable"

def message : Unwritable → String
  | .date => typeText "date"
  | .moment => typeText "datetime"
  | .bytes => typeText "bytes"
  | .set => typeText "set"
  | .excess e => e.message

end Unwritable

namespace Json

open DomainCompiler.Text

def numberStyle : FloatStyle :=
  { FloatStyle.standard with infinity := "Infinity", undefined := "NaN" }

/-- The escape of a character outside printable ASCII. -/
def unicodeEscape (c : Char) : List Char :=
  let n := c.toNat
  if n < 0x10000 then '\\' :: 'u' :: hex 4 n
  else
    let high := 0xD800 + (n - 0x10000) / 0x400
    let low := 0xDC00 + (n - 0x10000) % 0x400
    '\\' :: 'u' :: hex 4 high ++ '\\' :: 'u' :: hex 4 low

def escapedChar (c : Char) : List Char :=
  if c == '"' then ['\\', '"']
  else if c == '\\' then ['\\', '\\']
  else if c == '\n' then ['\\', 'n']
  else if c == '\r' then ['\\', 'r']
  else if c == '\t' then ['\\', 't']
  else if c.toNat == 8 then ['\\', 'b']
  else if c.toNat == 12 then ['\\', 'f']
  else if 0x20 ≤ c.toNat && c.toNat < 0x7F then [c]
  else unicodeEscape c

def quotedText (s : String) : List Char :=
  '"' :: s.toList.flatMap escapedChar ++ ['"']

/-- A line end and the indentation of the depth, two blanks a level. -/
def lineAt (depth : Nat) : List Char :=
  '\n' :: List.replicate (2 * depth) ' '

def intText (n : Int) : Except Unwritable String :=
  if Decimal.isLong n then .error (.excess .digits) else .ok (Decimal.ofInt n)

/-- The text of a key; scalars other than texts take their written form. -/
def keyText : Value → Except Unwritable String
  | .text s => .ok s
  | .null => .ok "null"
  | .bool b => .ok (if b then "true" else "false")
  | .int n => intText n
  | .float x => .ok (Decimal.ofBinary64 numberStyle x)
  | .date .. => .error .date
  | .moment .. => .error .moment
  | .bytes .. => .error .bytes
  | .set .. => .error .set
  | .list .. => .ok ""
  | .map .. => .ok ""
  | .endless => .error (.excess .endless)

mutual

/-- The text of a value that stands at the given depth. -/
def write (depth : Nat) : Value → Except Unwritable (List Char)
  | .null => .ok "null".toList
  | .bool b => .ok (if b then "true" else "false").toList
  | .int n => (intText n).map String.toList
  | .float x => .ok (Decimal.ofBinary64 numberStyle x).toList
  | .text s => .ok (quotedText s)
  | .date .. => .error .date
  | .moment .. => .error .moment
  | .bytes .. => .error .bytes
  | .set .. => .error .set
  | .endless => .error (.excess .endless)
  | .list [] => .ok ['[', ']']
  | .list (item :: items) => do
    let first ← write (depth + 1) item
    let more ← writeItems (depth + 1) items
    .ok ('[' :: lineAt (depth + 1) ++ first ++ more ++ lineAt depth ++ [']'])
  | .map [] => .ok ['{', '}']
  | .map ((key, value) :: entries) => do
    let name ← keyText key
    let first ← write (depth + 1) value
    let more ← writeEntries (depth + 1) entries
    .ok ('{' :: lineAt (depth + 1) ++ quotedText name ++ ':' :: ' ' :: first ++ more ++
      lineAt depth ++ ['}'])

/-- The items after the first one, each on a line of its own. -/
def writeItems (depth : Nat) : List Value → Except Unwritable (List Char)
  | [] => .ok []
  | item :: items => do
    let first ← write depth item
    let more ← writeItems depth items
    .ok (',' :: lineAt depth ++ first ++ more)

/-- The entries after the first one, each on a line of its own. -/
def writeEntries (depth : Nat) : List (Value × Value) → Except Unwritable (List Char)
  | [] => .ok []
  | (key, value) :: entries => do
    let name ← keyText key
    let first ← write depth value
    let more ← writeEntries depth entries
    .ok (',' :: lineAt depth ++ quotedText name ++ ':' :: ' ' :: first ++ more)

end

def render (v : Value) : Except Unwritable String :=
  (write 0 v).map String.ofList

end Json

end DomainCompiler

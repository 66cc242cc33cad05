import DomainCompiler.Value.Basic

/-!
# Reading JSON text

Reads the JSON of RFC 8259. A number with a fraction or an exponent is a double precision
number, any other one a whole number of any size. A repeated key keeps its first place and takes
its last value. The reader of a part of the text gives what it read and the text that remains.
-/

namespace DomainCompiler.Json

def isSpace (c : Char) : Bool :=
  c == ' ' || c == '\n' || c == '\r' || c == '\t'

def skipSpace (s : List Char) : List Char :=
  s.dropWhile isSpace

def expect (word : List Char) (s : List Char) : Option (List Char) :=
  if word.isPrefixOf s then some (s.drop word.length) else none

def hex4 (s : List Char) : Option (Nat × List Char) :=
  if s.length < 4 then none
  else (Decimal.readNat? 16 (s.take 4)).map fun n => (n, s.drop 4)

/-- The rest of an escape behind `\u`; the halves of a surrogate pair make one character. -/
def unicodeEscape? (s : List Char) : Option (Char × List Char) := do
  let (high, rest) ← hex4 s
  if 0xD800 ≤ high && high < 0xDC00 then
    match rest with
    | '\\' :: 'u' :: more =>
      match hex4 more with
      | some (low, rest') =>
        if 0xDC00 ≤ low && low < 0xE000 then
          some (Char.ofNat (0x10000 + (high - 0xD800) * 0x400 + (low - 0xDC00)), rest')
        else some ('\uFFFD', rest)
      | none => none
    | _ => some ('\uFFFD', rest)
  else if 0xDC00 ≤ high && high < 0xE000 then some ('\uFFFD', rest)
  else some (Char.ofNat high, rest)

/-- The character of an escape, given the text behind the backslash. -/
def escape? : List Char → Option (Char × List Char)
  | 'u' :: rest => unicodeEscape? rest
  | '"' :: rest => some ('"', rest)
  | '\\' :: rest => some ('\\', rest)
  | '/' :: rest => some ('/', rest)
  | 'b' :: rest => some ('\x08', rest)
  | 'f' :: rest => some ('\x0C', rest)
  | 'n' :: rest => some ('\n', rest)
  | 'r' :: rest => some ('\r', rest)
  | 't' :: rest => some ('\t', rest)
  | _ => none

/-- The characters up to the closing quote; the first argument bounds their number. -/
def string? : Nat → List Char → Option (List Char × List Char)
  | 0, _ => none
  | _, [] => none
  | fuel + 1, c :: rest =>
    if c == '"' then some ([], rest)
    else if c == '\\' then do
      let (e, rest) ← escape? rest
      let (cs, rest) ← string? fuel rest
      some (e :: cs, rest)
    else if c.toNat < 0x20 then none
    else do
      let (cs, rest) ← string? fuel rest
      some (c :: cs, rest)

def isNumberChar (c : Char) : Bool :=
  c.isDigit || c == '-' || c == '+' || c == '.' || c == 'e' || c == 'E'

/-- Whether digits may stand before the point: no leading zero unless it is the only digit. -/
def isWhole : List Char → Bool
  | [] => false
  | ['0'] => true
  | '0' :: _ => false
  | _ => true

/-- The number that the characters write. -/
def numberOf? (s : List Char) : Option Value :=
  let (negative, rest) :=
    match s with
    | '-' :: rest => (true, rest)
    | _ => (false, s)
  let (whole, rest) := Decimal.spanDigits rest
  if !isWhole whole then none
  else
    match rest with
    | [] => (Decimal.readNat? 10 whole).map fun n => .int (if negative then -(n : Int) else n)
    | '.' :: more =>
      if (Decimal.spanDigits more).1.isEmpty then none
      else (Decimal.readUnsigned negative (whole ++ rest)).map .float
    | _ => (Decimal.readUnsigned negative (whole ++ rest)).map .float

mutual

/-- A value at the start of the text. -/
def value? : Nat → List Char → Option (Value × List Char)
  | 0, _ => none
  | _, [] => none
  | fuel + 1, c :: rest =>
    if c == '[' then
      match skipSpace rest with
      | ']' :: rest => some (.list [], rest)
      | rest => do
        let (items, rest) ← items? fuel rest
        some (.list items, rest)
    else if c == '{' then
      match skipSpace rest with
      | '}' :: rest => some (.map [], rest)
      | rest => do
        let (entries, rest) ← entries? fuel rest
        some (.map (Value.mapOfEntries entries), rest)
    else if c == '"' then do
      let (cs, rest) ← string? (rest.length + 1) rest
      some (.text (String.ofList cs), rest)
    else if c == 't' then (expect "true".toList (c :: rest)).map (.bool true, ·)
    else if c == 'f' then (expect "false".toList (c :: rest)).map (.bool false, ·)
    else if c == 'n' then (expect "null".toList (c :: rest)).map (.null, ·)
    else
      (numberOf? ((c :: rest).takeWhile isNumberChar)).map
        (·, (c :: rest).dropWhile isNumberChar)

/-- The items of a list up to its closing bracket, at least one. -/
def items? : Nat → List Char → Option (List Value × List Char)
  | 0, _ => none
  | fuel + 1, s => do
    let (item, rest) ← value? fuel s
    match skipSpace rest with
    | ']' :: rest => some ([item], rest)
    | ',' :: rest =>
      let (items, rest) ← items? fuel (skipSpace rest)
      some (item :: items, rest)
    | _ => none

/-- The entries of a mapping up to its closing brace, at least one. -/
def entries? : Nat → List Char → Option (List (Value × Value) × List Char)
  | 0, _ => none
  | _, [] => none
  | fuel + 1, c :: rest =>
    if c == '"' then do
      let (key, rest) ← string? (rest.length + 1) rest
      let rest ← expect [':'] (skipSpace rest)
      let (value, rest) ← value? fuel (skipSpace rest)
      let entry := (Value.text (String.ofList key), value)
      match skipSpace rest with
      | '}' :: rest => some ([entry], rest)
      | ',' :: rest =>
        let (entries, rest) ← entries? fuel (skipSpace rest)
        some (entry :: entries, rest)
      | _ => none
    else none

end

/-- The value that the whole text denotes, where it is JSON. -/
def read? (s : String) : Option Value :=
  let cs := skipSpace s.toList
  match value? (cs.length + 1) cs with
  | some (v, rest) => if (skipSpace rest).isEmpty then some v else none
  | none => none

end DomainCompiler.Json

import DomainCompiler.Yaml.Character
import DomainCompiler.Yaml.Timestamp

/-!
# Tags

The tag of a node says which type of value it writes. A plain scalar without a tag has the type
that its text has the form of, and is a text where it has none of these forms.
-/

namespace DomainCompiler.Yaml

inductive Tag where
  | null
  | bool
  | int
  | float
  | timestamp
  | binary
  | text
  | list
  | map
  | set
  | orderedMap
  | pairs
  /-- A key that stands for the entries of other mappings. -/
  | merge
  /-- A key whose value stands for its mapping where a scalar is asked for. -/
  | default
  | other
  deriving DecidableEq, Repr

namespace Tag

def base : String := "tag:yaml.org,2002:"

/-- The tag with a name behind the base. -/
def ofName : String → Tag
  | "null" => .null
  | "bool" => .bool
  | "int" => .int
  | "float" => .float
  | "timestamp" => .timestamp
  | "binary" => .binary
  | "str" => .text
  | "seq" => .list
  | "map" => .map
  | "set" => .set
  | "omap" => .orderedMap
  | "pairs" => .pairs
  | "merge" => .merge
  | "value" => .default
  | _ => .other

def ofText (s : String) : Tag :=
  if base.toList.isPrefixOf s.toList then
    ofName (String.ofList (s.toList.drop base.toList.length))
  else .other

def nullWords : List String := ["", "~", "null", "Null", "NULL"]

def boolWords : List String :=
  ["yes", "Yes", "YES", "no", "No", "NO", "true", "True", "TRUE", "false", "False", "FALSE",
    "on", "On", "ON", "off", "Off", "OFF"]

def isDigitRun : List Char → Bool
  | [] => false
  | c :: rest => c.isDigit && rest.all fun d => d.isDigit || d == '_'

/-- A part of sixty: one digit, or two below sixty. -/
def isSixtieth : List Char → Bool
  | [a] => a.isDigit
  | [a, b] => '0' ≤ a && a ≤ '5' && b.isDigit
  | _ => false

/-- A run of digits and at least one part of sixty behind it, all separated by colons. -/
def isSexagesimal (s : List Char) : Bool :=
  match s.splitOn ':' with
  | first :: second :: more => isDigitRun first && (second :: more).all isSixtieth
  | _ => false

/-- The form of whole numbers, without a sign. -/
def isWhole : List Char → Bool
  | '0' :: 'b' :: rest => !rest.isEmpty && rest.all fun c => c == '0' || c == '1' || c == '_'
  | '0' :: 'x' :: rest => !rest.isEmpty && rest.all fun c => isHexDigit c || c == '_'
  | '0' :: rest => rest.all fun c => ('0' ≤ c && c ≤ '7') || c == '_'
  | s => isDigitRun s || isSexagesimal s

/-- An exponent, which has a sign, or nothing. -/
def isExponent : List Char → Bool
  | [] => true
  | e :: sign :: digits =>
    (e == 'e' || e == 'E') && (sign == '+' || sign == '-') && !digits.isEmpty &&
      digits.all Char.isDigit
  | _ => false

def isInfinity (s : List Char) : Bool :=
  [".inf", ".Inf", ".INF"].contains (String.ofList s)

def isFraction (s : List Char) : Bool :=
  isExponent (s.dropWhile fun c => c.isDigit || c == '_')

/-- The form of numbers with a point, without a sign and with digits in front of the point. -/
def isDecimal (s : List Char) : Bool :=
  match s.dropWhile (· != '.') with
  | [] => false
  | _ :: fraction =>
    let whole := s.takeWhile (· != '.')
    (isDigitRun whole && isFraction fraction) ||
      (isSexagesimal whole && fraction.all fun c => c.isDigit || c == '_')

/-- The form of numbers with a point. -/
def isFloat (s : List Char) : Bool :=
  let unsigned := (Decimal.splitSign s).2
  isDecimal unsigned || isInfinity unsigned ||
    match s with
    | '.' :: c :: rest =>
      (c.isDigit && isFraction rest) || ["nan", "NaN", "NAN"].contains (String.ofList (c :: rest))
    | _ => false

def withoutFinalBreak (s : List Char) : List Char :=
  if s.getLast? == some '\n' then s.dropLast else s

/-- The tag of a plain scalar that has none of its own. -/
def ofPlain (s : String) : Tag :=
  let cs := withoutFinalBreak s.toList
  let word := String.ofList cs
  if boolWords.contains word then .bool
  else if isFloat cs then .float
  else if isWhole (Decimal.splitSign cs).2 then .int
  else if word == "<<" then .merge
  else if nullWords.contains word && (word != "" || s.isEmpty) then .null
  else if Timestamp.isPlain cs then .timestamp
  else if word == "=" then .default
  else if ["!", "&", "*"].contains word then .other
  else .text

end Tag

end DomainCompiler.Yaml

import DomainCompiler.Number.Decimal
import DomainCompiler.Value.Basic
import DomainCompiler.Yaml.Node.Reader

/-!
# JSON texts

Trees for the JSON of RFC 8259. A tree has everything that its text shows, blanks and spellings as
well, so that each JSON text is written by a tree; what it denotes is the same for all spellings. A
repeated key keeps its first place and takes its last value.

YAML shares most of these texts, but not all of them. Tabs are no blanks between its tokens, a
number with an exponent needs a point and a sign, a key is short and has its colon on its line, and
some characters are read as ends of lines or not at all.
-/

namespace DomainCompiler.Json

/-! ### Blanks -/

inductive Blank where
  | space
  | tab
  | lineFeed
  | carriageReturn
  deriving DecidableEq, Repr

def Blank.char : Blank → Char
  | .space => ' '
  | .tab => '\t'
  | .lineFeed => '\n'
  | .carriageReturn => '\r'

def blankChars (blanks : List Blank) : List Char :=
  blanks.map Blank.char

/-! ### Numbers -/

abbrev Digit := Fin 10

def Digit.char (d : Digit) : Char :=
  Char.ofNat (48 + d.val)

def digitChars (digits : List Digit) : List Char :=
  digits.map Digit.char

def digitsValue (digits : List Digit) : Nat :=
  digits.foldl (fun n d => n * 10 + d.val) 0

/-- At least one digit. -/
structure Digits where
  first : Digit
  more : List Digit
  deriving DecidableEq, Repr

def Digits.all (ds : Digits) : List Digit :=
  ds.first :: ds.more

/-- The digits in front of the point: zero alone, or digits of which the first is not zero. -/
structure Whole where
  digits : Digits
  proper : digits.first = 0 → digits.more = []
  deriving DecidableEq, Repr

inductive Sign where
  | plus
  | minus
  deriving DecidableEq, Repr

def Sign.char : Sign → Char
  | .plus => '+'
  | .minus => '-'

structure Exponent where
  capital : Bool
  sign : Option Sign
  digits : Digits
  deriving DecidableEq, Repr

namespace Exponent

def chars (e : Exponent) : List Char :=
  (if e.capital then 'E' else 'e') :: (e.sign.map Sign.char).toList ++ digitChars e.digits.all

def value (e : Exponent) : Int :=
  if e.sign = some .minus then -(digitsValue e.digits.all : Int) else digitsValue e.digits.all

end Exponent

structure Number where
  negative : Bool
  whole : Whole
  fraction : Option Digits
  exponent : Option Exponent
  deriving DecidableEq, Repr

namespace Number

def fractionDigits (n : Number) : List Digit :=
  n.fraction.elim [] Digits.all

def fractionChars (n : Number) : List Char :=
  n.fraction.elim [] fun ds => '.' :: digitChars ds.all

def exponentChars (n : Number) : List Char :=
  n.exponent.elim [] Exponent.chars

/-- The text of a number without its sign. -/
def magnitudeChars (n : Number) : List Char :=
  digitChars n.whole.digits.all ++ n.fractionChars ++ n.exponentChars

def chars (n : Number) : List Char :=
  (if n.negative then ['-'] else []) ++ n.magnitudeChars

def isWhole (n : Number) : Bool :=
  n.fraction.isNone && n.exponent.isNone

/-- All digits in front of the exponent as one number, and the power of ten that goes with it. -/
def scaled (n : Number) : Nat × Int :=
  (digitsValue (n.whole.digits.all ++ n.fractionDigits),
    n.exponent.elim 0 Exponent.value - n.fractionDigits.length)

/-- A number with a fraction or an exponent is one of double precision. -/
def value (n : Number) : Value :=
  if n.isWhole then
    .int (if n.negative then -(digitsValue n.whole.digits.all : Int)
      else digitsValue n.whole.digits.all)
  else .float (Binary64.ofDecimal n.negative n.scaled.1 n.scaled.2)

end Number

/-! ### Strings -/

structure HexDigit where
  value : Fin 16
  capital : Bool
  deriving DecidableEq, Repr

def HexDigit.char (d : HexDigit) : Char :=
  if d.value.val < 10 then Char.ofNat (48 + d.value.val)
  else if d.capital then Char.ofNat (55 + d.value.val)
  else Char.ofNat (87 + d.value.val)

/-- The escapes of one letter. -/
inductive Escape where
  | quote
  | backslash
  | slash
  | backspace
  | formFeed
  | lineFeed
  | carriageReturn
  | tab
  deriving DecidableEq, Repr

namespace Escape

def letter : Escape → Char
  | .quote => '"'
  | .backslash => '\\'
  | .slash => '/'
  | .backspace => 'b'
  | .formFeed => 'f'
  | .lineFeed => 'n'
  | .carriageReturn => 'r'
  | .tab => 't'

def char : Escape → Char
  | .quote => '"'
  | .backslash => '\\'
  | .slash => '/'
  | .backspace => '\x08'
  | .formFeed => '\x0C'
  | .lineFeed => '\n'
  | .carriageReturn => '\r'
  | .tab => '\t'

end Escape

/-- Whether a character may stand in a string as it is. -/
def isUnescaped (c : Char) : Bool :=
  0x20 ≤ c.toNat && c != '"' && c != '\\'

inductive Piece where
  | raw (c : Char) (unescaped : isUnescaped c = true)
  | escape (e : Escape)
  | code (a b c d : HexDigit)
  deriving DecidableEq, Repr

namespace Piece

def chars : Piece → List Char
  | .raw c _ => [c]
  | .escape e => ['\\', e.letter]
  | .code a b c d => ['\\', 'u', a.char, b.char, c.char, d.char]

/-- The number of the character, or of one half of it. -/
def unit : Piece → Nat
  | .raw c _ => c.toNat
  | .escape e => e.char.toNat
  | .code a b c d => ((a.value.val * 16 + b.value.val) * 16 + c.value.val) * 16 + d.value.val

end Piece

def isHighHalf (n : Nat) : Bool :=
  0xD800 ≤ n && n < 0xDC00

def isLowHalf (n : Nat) : Bool :=
  0xDC00 ≤ n && n < 0xE000

def isHalf (n : Nat) : Bool :=
  isHighHalf n || isLowHalf n

/-- Two halves make one character, and a lone half makes none. -/
def charsOfUnits : List Nat → List Char
  | [] => []
  | [n] => [if isHalf n then '\uFFFD' else Char.ofNat n]
  | m :: n :: rest =>
    if isHighHalf m && isLowHalf n then
      Char.ofNat (0x10000 + (m - 0xD800) * 0x400 + (n - 0xDC00)) :: charsOfUnits rest
    else (if isHalf m then '\uFFFD' else Char.ofNat m) :: charsOfUnits (n :: rest)

abbrev Str := List Piece

namespace Str

/-- The text of a string between its quotes. -/
def body (s : Str) : List Char :=
  s.flatMap Piece.chars

def chars (s : Str) : List Char :=
  '"' :: s.body ++ ['"']

def value (s : Str) : String :=
  String.ofList (charsOfUnits (s.map Piece.unit))

end Str

/-! ### Values -/

mutual

inductive Tree where
  | null
  | bool (b : Bool)
  | number (n : Number)
  | string (s : Str)
  | emptyArray (blanks : List Blank)
  | array (items : Items)
  | emptyObject (blanks : List Blank)
  | object (members : Members)

/-- The items of an array, each with the blanks around it. -/
inductive Items where
  | one (before : List Blank) (item : Tree) (after : List Blank)
  | more (before : List Blank) (item : Tree) (after : List Blank) (rest : Items)

/-- The members of an object, with the blanks around keys and values. -/
inductive Members where
  | one (before : List Blank) (key : Str) (behind before' : List Blank) (value : Tree)
      (after : List Blank)
  | more (before : List Blank) (key : Str) (behind before' : List Blank) (value : Tree)
      (after : List Blank) (rest : Members)

end

deriving instance Repr for Tree, Items, Members

/-- How the blanks between tokens are written. -/
abbrev Spacing := List Blank → List Char

mutual

def Tree.written (w : Spacing) : Tree → List Char
  | .null => "null".toList
  | .bool true => "true".toList
  | .bool false => "false".toList
  | .number n => n.chars
  | .string s => s.chars
  | .emptyArray blanks => '[' :: w blanks ++ [']']
  | .array items => '[' :: items.written w ++ [']']
  | .emptyObject blanks => '{' :: w blanks ++ ['}']
  | .object members => '{' :: members.written w ++ ['}']

def Items.written (w : Spacing) : Items → List Char
  | .one before item after => w before ++ item.written w ++ w after
  | .more before item after rest =>
    w before ++ item.written w ++ w after ++ ',' :: rest.written w

def Members.written (w : Spacing) : Members → List Char
  | .one before key behind before' value after =>
    w before ++ key.chars ++ w behind ++ ':' :: w before' ++ value.written w ++ w after
  | .more before key behind before' value after rest =>
    w before ++ key.chars ++ w behind ++ ':' :: w before' ++ value.written w ++ w after ++
      ',' :: rest.written w

end

mutual

def Tree.value : Tree → Value
  | .null => .null
  | .bool b => .bool b
  | .number n => n.value
  | .string s => .text s.value
  | .emptyArray _ => .list []
  | .array items => .list items.values
  | .emptyObject _ => .map []
  | .object members => .map (Value.mapOfEntries members.entries)

def Items.values : Items → List Value
  | .one _ item _ => [item.value]
  | .more _ item _ rest => item.value :: rest.values

def Members.entries : Members → List (Value × Value)
  | .one _ key _ _ value _ => [(.text key.value, value.value)]
  | .more _ key _ _ value _ rest => (.text key.value, value.value) :: rest.entries

end

/-- A text: a value with the blanks around it. -/
structure Document where
  before : List Blank
  root : Tree
  after : List Blank
  deriving Repr

namespace Document

def written (w : Spacing) (d : Document) : List Char :=
  w d.before ++ d.root.written w ++ w d.after

def chars (d : Document) : List Char :=
  d.written blankChars

end Document

/-! ### What YAML shares -/

def Number.isShared (n : Number) : Bool :=
  match n.fraction, n.exponent with
  | none, none => n.whole.digits.all.length ≤ Decimal.digitLimit
  | none, some _ => false
  | some _, none => true
  | some _, some e => e.sign.isSome

/-- A character is written as it is only where it may be and does not end a line, and not by the
number of one half of it. -/
def Piece.isShared : Piece → Bool
  | .raw c _ => Yaml.isReadable c && !Yaml.isBreak c
  | .escape _ => true
  | .code a b c d => !isHalf (Piece.code a b c d).unit

def areShared (blanks : List Blank) : Bool :=
  blanks.all (· != .tab)

/-- The greatest number of characters from the start of a key up to its colon. -/
def keyLimit : Nat := 1024

/-- The colon stands behind a key on its line. -/
def Str.isSharedKey (key : Str) (behind : List Blank) : Bool :=
  key.all Piece.isShared && behind.all (· == .space) &&
    key.chars.length + behind.length ≤ keyLimit

mutual

def Tree.isShared : Tree → Bool
  | .null => true
  | .bool _ => true
  | .number n => n.isShared
  | .string s => s.all Piece.isShared
  | .emptyArray blanks => areShared blanks
  | .array items => items.areShared
  | .emptyObject blanks => areShared blanks
  | .object members => members.areShared

def Items.areShared : Items → Bool
  | .one before item after => Json.areShared before && item.isShared && Json.areShared after
  | .more before item after rest =>
    Json.areShared before && item.isShared && Json.areShared after && rest.areShared

def Members.areShared : Members → Bool
  | .one before key behind before' value after =>
    Json.areShared before && key.isSharedKey behind && Json.areShared before' &&
      value.isShared && Json.areShared after
  | .more before key behind before' value after rest =>
    Json.areShared before && key.isSharedKey behind && Json.areShared before' &&
      value.isShared && Json.areShared after && rest.areShared

end

mutual

/-- How many collections are inside of each other. -/
def Tree.depth : Tree → Nat
  | .null => 0
  | .bool _ => 0
  | .number _ => 0
  | .string _ => 0
  | .emptyArray _ => 1
  | .array items => items.depth + 1
  | .emptyObject _ => 1
  | .object members => members.depth + 1

def Items.depth : Items → Nat
  | .one _ item _ => item.depth
  | .more _ item _ rest => max item.depth rest.depth

def Members.depth : Members → Nat
  | .one _ _ _ _ value _ => value.depth
  | .more _ _ _ _ value _ rest => max value.depth rest.depth

end

def Document.isShared (d : Document) : Bool :=
  areShared d.before && d.root.isShared && areShared d.after &&
    d.root.depth ≤ Yaml.Reader.depthLimit

end DomainCompiler.Json

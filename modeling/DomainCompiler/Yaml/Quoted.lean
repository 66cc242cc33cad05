import DomainCompiler.Yaml.Character
import DomainCompiler.Yaml.Fault

/-!
# Quoted scalars

A scalar in single quotes writes a quote twice and has no escapes. One in double quotes has
escapes, which write any character by its number, and halves of surrogate pairs by theirs. Line ends
inside quotes are folded.
-/

namespace DomainCompiler.Yaml.Quoted

inductive Style where
  | single
  | double
  deriving DecidableEq, Repr

def Style.mark : Style → Char
  | .single => '\''
  | .double => '"'

/-- Where the reader of a quoted scalar stands; what is held back is in reverse order. -/
inductive State where
  | text
  /-- Blanks that count unless the line ends behind them. -/
  | blanks (held : List Nat)
  /-- At the start of a line; an escaped line end leaves nothing. -/
  | lines (first : Option Char) (more : List Char)
  /-- Behind a quote in single quotes. -/
  | quote
  /-- Behind a backslash in double quotes. -/
  | escape
  /-- Inside the number of a character. -/
  | number (digits : Nat) (value : Nat)
  deriving Repr

/-- What happens at a character. -/
inductive Step where
  | goes (state : State) (read : List Nat)
  | ends (read : List Nat)
  | fails (fault : Fault)

/-- The character of an escape of one letter. -/
def escaped? : Char → Option Nat
  | '0' => some 0x00
  | 'a' => some 0x07
  | 'b' => some 0x08
  | 't' => some 0x09
  | '\t' => some 0x09
  | 'n' => some 0x0A
  | 'v' => some 0x0B
  | 'f' => some 0x0C
  | 'r' => some 0x0D
  | 'e' => some 0x1B
  | ' ' => some 0x20
  | '"' => some 0x22
  | '/' => some 0x2F
  | '\\' => some 0x5C
  | 'N' => some 0x85
  | '_' => some 0xA0
  | 'L' => some 0x2028
  | 'P' => some 0x2029
  | _ => none

/-- The number of digits behind the letter of a numeric escape. -/
def escapeDigits? : Char → Option Nat
  | 'x' => some 2
  | 'u' => some 4
  | 'U' => some 8
  | _ => none

def push (cs : List Char) (read : List Nat) : List Nat :=
  (cs.map Char.toNat).reverse ++ read

/-- A line end, with the text behind it; documents do not end inside quotes. -/
def atLine (state : State) (rest : List Char) (read : List Nat) : Step :=
  if startsSeparator rest then .fails (.malformed .quoted) else .goes state read

/-- A character where nothing is held back. -/
def stepText (style : Style) (read : List Nat) (c : Char) (rest : List Char) : Step :=
  if c == style.mark then
    match style with
    | .single => .goes .quote read
    | .double => .ends read
  else if c == '\\' && style == .double then .goes .escape read
  else if isTabOrSpace c then .goes (.blanks [c.toNat]) read
  else if isBreak c then atLine (.lines (some c) []) rest read
  else .goes .text (c.toNat :: read)

def stepEscape (read : List Nat) (c : Char) (rest : List Char) : Step :=
  match escaped? c, escapeDigits? c with
  | some n, _ => .goes .text (n :: read)
  | none, some digits => .goes (.number digits 0) read
  | none, none =>
    if isBreak c then atLine (.lines none []) rest read else .fails (.malformed .quoted)

def stepNumber (read : List Nat) (digits value : Nat) (c : Char) : Step :=
  match Decimal.digitValue? c with
  | none => .fails (.malformed .quoted)
  | some d =>
    let n := value * 16 + d
    if 16 ≤ d then .fails (.malformed .quoted)
    else if 1 < digits then .goes (.number (digits - 1) n) read
    else if 0x110000 ≤ n then .fails (.scalar .codePoint)
    else .goes .text (n :: read)

/-- One character of a quoted scalar, with the text behind it. -/
def step (style : Style) (state : State) (read : List Nat) (c : Char) (rest : List Char) : Step :=
  match state with
  | .text => stepText style read c rest
  | .blanks held =>
    if isTabOrSpace c then .goes (.blanks (c.toNat :: held)) read
    else if isBreak c then atLine (.lines (some c) []) rest read
    else stepText style (held ++ read) c rest
  | .lines first more =>
    if isTabOrSpace c then .goes state read
    else if isBreak c then atLine (.lines first (more ++ [keptBreak c])) rest read
    else
      match first with
      | some f => stepText style (push (folded f more) read) c rest
      | none => stepText style (push more read) c rest
  | .quote =>
    if c == style.mark then .goes .text (c.toNat :: read) else .ends read
  | .escape => stepEscape read c rest
  | .number digits value => stepNumber read digits value c

/-- Reads up to the closing quote; in single quotes the character behind it is looked at. -/
def scan (style : Style) (state : State) (read : List Nat) :
    List Char → Except Fault (List Nat × List Char)
  | [] =>
    match state with
    | .quote => .ok (read, [])
    | _ => .error (.malformed .quoted)
  | c :: rest =>
    match step style state read c rest with
    | .goes state read => scan style state read rest
    | .ends read =>
      match style with
      | .single => .ok (read, c :: rest)
      | .double => .ok (read, rest)
    | .fails fault => .error fault

def isHighHalf (n : Nat) : Bool :=
  0xD800 ≤ n && n < 0xDC00

def isLowHalf (n : Nat) : Bool :=
  0xDC00 ≤ n && n < 0xE000

/--
The characters of the numbers. Each half of a surrogate pair has been read as a number of its own,
and stays apart as such up to here; but a text is made of characters, and a half is none. So two
halves that follow each other stand for their character, which is what a writer with ASCII only
writes as the same two halves, and U+FFFD stands for a lone half. What is stated on the text of a
scalar leaves scalars with halves out.
-/
def characters : List Nat → List Char
  | [] => []
  | [n] => [if isHighHalf n || isLowHalf n then '\uFFFD' else Char.ofNat n]
  | m :: n :: rest =>
    if isHighHalf m && isLowHalf n then
      Char.ofNat (0x10000 + (m - 0xD800) * 0x400 + (n - 0xDC00)) :: characters rest
    else
      (if isHighHalf m || isLowHalf m then '\uFFFD' else Char.ofNat m) :: characters (n :: rest)

/-- The text of a quoted scalar whose opening quote has been read, and what follows it. -/
def read (style : Style) (s : List Char) : Except Fault (List Char × List Char) :=
  (scan style .text [] s).map fun r => (characters r.1.reverse, r.2)

end DomainCompiler.Yaml.Quoted

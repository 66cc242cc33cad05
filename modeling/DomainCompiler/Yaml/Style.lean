import DomainCompiler.Yaml.Tag

/-!
# Styles of scalars

A scalar is written plain where its text reads back as it is, else in single quotes, and in double
quotes where it holds characters that need escapes or blanks that folding would lose.
-/

namespace DomainCompiler.Yaml

/-- How a scalar is written. -/
inductive Style where
  | plain
  | single
  | double
  | literal
  deriving DecidableEq, Repr

namespace Style

/-- Characters that stand for themselves outside of double quotes. -/
def isOrdinary (c : Char) : Bool :=
  let n := c.toNat
  c == '\n' || (0x20 ≤ n && n ≤ 0x7E) || n == 0x85 ||
    (0xA0 ≤ n && n != 0xFEFF && n != 0xFFFE && n != 0xFFFF && n < 0x10FFFF)

def hasPair (p : Char → Char → Bool) : List Char → Bool
  | a :: b :: rest => p a b || hasPair p (b :: rest)
  | _ => false

def atEnds (p : Char → Bool) (s : List Char) : Bool :=
  s.head?.any p || s.getLast?.any p

def startsLikeSeparator : List Char → Bool
  | a :: b :: c :: _ => a == b && b == c && (a == '-' || a == '.')
  | _ => false

/-- Whether the start of the text would be read as something else than a plain scalar. -/
def startsSpecial (s : List Char) : Bool :=
  let c := next s
  startsLikeSeparator s || "#,[]\x7b\x7d&*!|>'\"%@\x60".toList.contains c ||
    ((c == '?' || c == ':' || c == '-') && endsWord (next s.tail))

def endsInside (s : List Char) : Bool :=
  (s.length != 1 && s.getLast? == some ':') ||
    hasPair (fun a b => (a == ':' && endsWord b) || (endsWord a && b == '#')) s

def hasSpaceBreak (s : List Char) : Bool :=
  hasPair (fun a b => a == ' ' && isBreak b) s

def hasBreakSpace (s : List Char) : Bool :=
  hasPair (fun a b => isBreak a && b == ' ') s

def isMultiline (s : List Char) : Bool := s.any isBreak

def allowsPlain (s : List Char) : Bool :=
  s.all isOrdinary && !isMultiline s && !atEnds (· == ' ') s && !startsSpecial s && !endsInside s

def allowsSingle (s : List Char) : Bool :=
  s.all isOrdinary && !hasSpaceBreak s && !hasBreakSpace s

def allowsLiteral (s : List Char) : Bool :=
  !s.isEmpty && s.all isOrdinary && !hasSpaceBreak s && s.getLast? != some ' '

/-- The style of a scalar with the tag; a key stands on one line. -/
def choose (key : Bool) (tag : Tag) (s : List Char) : Style :=
  let fits := !key || !(s.isEmpty || isMultiline s)
  if tag == .binary then (if !key && allowsLiteral s then .literal else .double)
  else if Tag.ofPlain (String.ofList s) == tag && fits && allowsPlain s then .plain
  else if allowsSingle s && !(key && isMultiline s) then .single
  else .double

end Style

end DomainCompiler.Yaml

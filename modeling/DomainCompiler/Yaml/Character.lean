/-!
# Characters of documents

The end of a text is seen as the character NUL, which no document holds. Lines end at a line
feed, at NEL or at one of the two Unicode separators; only the separators are kept in scalars.
-/

namespace DomainCompiler.Yaml

def isReadable (c : Char) : Bool :=
  let n := c.toNat
  n == 0x09 || n == 0x0A || n == 0x0D || (0x20 ≤ n && n ≤ 0x7E) || n == 0x85 ||
    (0xA0 ≤ n && n != 0xFFFE && n != 0xFFFF)

def next (s : List Char) : Char :=
  s.headD '\x00'

def isBreak (c : Char) : Bool :=
  c == '\n' || c == '\u0085' || c == '\u2028' || c == '\u2029'

def keptBreak (c : Char) : Char :=
  if c == '\u2028' || c == '\u2029' then c else '\n'

def isTabOrSpace (c : Char) : Bool :=
  c == ' ' || c == '\t'

def endsLine (c : Char) : Bool :=
  c == '\x00' || isBreak c

def endsField (c : Char) : Bool :=
  c == ' ' || endsLine c

def endsWord (c : Char) : Bool :=
  isTabOrSpace c || endsLine c

def isNameChar (c : Char) : Bool :=
  c.isAlphanum || c == '-' || c == '_'

def isHexDigit (c : Char) : Bool :=
  c.isDigit || ('a' ≤ c && c ≤ 'f') || ('A' ≤ c && c ≤ 'F')

/-- Three marks that begin the text, with nothing else behind them in their word. -/
def startsMarker (mark : Char) : List Char → Bool
  | a :: b :: c :: rest => a == mark && b == mark && c == mark && endsWord (next rest)
  | _ => false

def startsSeparator (s : List Char) : Bool :=
  startsMarker '-' s || startsMarker '.' s

/-- Line ends between two words: a single one is a blank, of several the first one goes. -/
def folded (first : Char) (more : List Char) : List Char :=
  if keptBreak first != '\n' then keptBreak first :: more
  else if more.isEmpty then [' ']
  else more

end DomainCompiler.Yaml

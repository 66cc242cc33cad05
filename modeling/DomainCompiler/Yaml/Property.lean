import DomainCompiler.Text.Utf8
import DomainCompiler.Yaml.Fault
import DomainCompiler.Yaml.Token

/-!
# Anchors, tags and directives

Names behind an ampersand or an asterisk, tags with their handles and escapes, and the lines
that a percent sign begins. The reader of a part gives what it read and the text behind it.
-/

namespace DomainCompiler.Yaml.Property

def fails {α : Type} (rule : Malformed) : Except Fault α :=
  .error (.malformed rule)

/-- The name of an anchor or an alias, behind its mark. -/
def name (s : List Char) : Except Fault (String × List Char) :=
  let chars := s.takeWhile isNameChar
  let rest := s.dropWhile isNameChar
  let c := next rest
  if chars.isEmpty || !(endsWord c || "?:,]\x7d%@\x60".toList.contains c) then fails .anchorName
  else .ok (String.ofList chars, rest)

def isTagChar (c : Char) : Bool :=
  c.isAlphanum || "-;/?:@&=+$,_.!~*'()[]%".toList.contains c

/-- The bytes of escapes at the start of a tag, and what follows them. -/
def escapes : List Char → Option (List UInt8 × List Char)
  | '%' :: a :: b :: rest =>
    if isHexDigit a && isHexDigit b then
      match Decimal.readNat? 16 [a, b], escapes rest with
      | some n, some (more, after) => some (UInt8.ofNat n :: more, after)
      | _, _ => none
    else none
  | ['%'] => none
  | ['%', _] => none
  | s => some ([], s)

/-- The characters of a tag, its escapes replaced; the first argument bounds their number. -/
def tagChars : Nat → List Char → Option (List Char × List Char)
  | 0, s => some ([], s)
  | _, [] => some ([], [])
  | fuel + 1, c :: rest =>
    if c == '%' then
      match escapes (c :: rest) with
      | some (bytes, after) =>
        match Utf8.decode bytes, tagChars fuel after with
        | some chars, some (more, after) => some (chars ++ more, after)
        | _, _ => none
      | none => none
    else if isTagChar c then
      match tagChars fuel rest with
      | some (more, after) => some (c :: more, after)
      | none => none
    else some ([], c :: rest)

/-- The text of a tag, at least one character. -/
def tagText (s : List Char) : Except Fault (String × List Char) :=
  match tagChars s.length s with
  | some (chars, rest) =>
    if rest.length == s.length then fails .tagText else .ok (String.ofList chars, rest)
  | none => fails .tagText

/-- A handle: a mark alone before a space, or two marks around a name. -/
def handle : List Char → Except Fault (String × List Char)
  | '!' :: rest =>
    if next rest == ' ' then .ok ("!", rest)
    else
      let chars := rest.takeWhile isNameChar
      match rest.dropWhile isNameChar with
      | '!' :: after => .ok (String.ofList ('!' :: chars ++ ['!']), after)
      | _ => fails .tagText
  | _ => fails .tagText

def hasHandle (s : List Char) : Bool :=
  (s.takeWhile fun c => !endsField c).contains '!'

/-- A tag in its three forms, behind its mark. -/
def tagParts (s : List Char) : Except Fault ((Option String × String) × List Char) := do
  if next s == '<' then
    let (text, rest) ← tagText s.tail
    if next rest == '>' then return ((none, text), rest.tail) else fails .tagText
  else if endsWord (next s) then return ((none, "!"), s)
  else if hasHandle s then
    let (h, rest) ← handle ('!' :: s)
    let (text, rest) ← tagText rest
    return ((some h, text), rest)
  else
    let (text, rest) ← tagText s
    return ((some "!", text), rest)

def tag (s : List Char) : Except Fault ((Option String × String) × List Char) := do
  let (parts, rest) ← tagParts s
  if endsField (next rest) then return (parts, rest) else fails .tagText

def skipSpaces (s : List Char) : List Char :=
  s.dropWhile (· == ' ')

def number (s : List Char) : Except Fault (Nat × List Char) :=
  let (digits, rest) := Decimal.spanDigits s
  match Decimal.readNat? 10 digits with
  | some n => .ok (n, rest)
  | none => fails .directive

/-- The version that a document states. -/
def version (s : List Char) : Except Fault (Directive × List Char) := do
  let (major, rest) ← number (skipSpaces s)
  if next rest == '.' then
    let (_, rest) ← number rest.tail
    if endsField (next rest) then return (.version major, rest) else fails .directive
  else fails .directive

/-- The meaning of a handle. -/
def handleMeaning (s : List Char) : Except Fault (Directive × List Char) := do
  let (h, rest) ← handle (skipSpaces s)
  if next rest == ' ' then
    let (text, rest) ← tagText (skipSpaces rest)
    if endsField (next rest) then return (.handle h text, rest) else fails .directive
  else fails .directive

def toLineEnd (s : List Char) : List Char :=
  s.dropWhile fun c => !endsLine c

/-- A directive behind its mark, up to the end of its line. -/
def directive (s : List Char) : Except Fault (Directive × List Char) := do
  let word := s.takeWhile isNameChar
  let behind := s.dropWhile isNameChar
  if word.isEmpty || !endsField (next behind) then fails .directive
  else
    let (d, rest) ←
      if word == "YAML".toList then version behind
      else if word == "TAG".toList then handleMeaning behind
      else .ok (.other, toLineEnd behind)
    let rest := skipSpaces rest
    let rest := if next rest == '#' then toLineEnd rest else rest
    if endsLine (next rest) then return (d, rest.tail) else fails .directive

end DomainCompiler.Yaml.Property

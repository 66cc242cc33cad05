import DomainCompiler.Yaml.Character
import DomainCompiler.Yaml.Fault

/-!
# Block scalars

A block scalar stands on the lines below its header, all of them indented. A literal one keeps
its line ends; a folded one joins lines that do not start with a blank. The header says what
happens to the line ends behind the last line.
-/

namespace DomainCompiler.Yaml.Block

/-- What happens to the line ends behind the last line. -/
inductive Chomping where
  | strip
  | clip
  | keep
  deriving DecidableEq, Repr

structure Header where
  chomping : Chomping
  /-- The indentation beyond that of the surrounding block, where it is given. -/
  increment : Option Nat

def chomping? : Char → Option Chomping
  | '+' => some .keep
  | '-' => some .strip
  | _ => none

def increment? (c : Char) : Option Nat :=
  if c.isDigit && c != '0' then some (c.toNat - 48) else none

/-- The two marks of a header in either order, each of them optional, and what follows them. -/
def marks : List Char → Header × List Char
  | [] => (⟨.clip, none⟩, [])
  | c :: rest =>
    match chomping? c, increment? c with
    | some chomping, _ =>
      match increment? (next rest) with
      | some n => (⟨chomping, some n⟩, rest.tail)
      | none => (⟨chomping, none⟩, rest)
    | none, some n =>
      match chomping? (next rest) with
      | some chomping => (⟨chomping, some n⟩, rest.tail)
      | none => (⟨.clip, some n⟩, rest)
    | none, none => (⟨.clip, none⟩, c :: rest)

/-- The text behind spaces, a comment and the line end; nothing else may stand there. -/
def restOfLine? (s : List Char) : Option (List Char) :=
  let s := s.dropWhile (· == ' ')
  let s := if next s == '#' then s.dropWhile fun c => !endsLine c else s
  if endsLine (next s) then some s.tail else none

/-- The header and the lines below it. -/
def header (s : List Char) : Except Fault (Header × List Char) :=
  let (h, rest) := marks s
  if endsField (next rest) then
    match restOfLine? rest with
    | some below => .ok (h, below)
    | none => .error (.malformed .blockHeader)
  else .error (.malformed .blockHeader)

/-- Empty lines and spaces: the line ends, the greatest column and the text behind. -/
def lead (column greatest : Nat) : List Char → List Char × Nat × Nat × List Char
  | [] => ([], column, greatest, [])
  | c :: rest =>
    if c == ' ' then lead (column + 1) (max greatest (column + 1)) rest
    else if isBreak c then
      let (breaks, found) := lead 0 greatest rest
      (keptBreak c :: breaks, found)
    else ([], column, greatest, c :: rest)

/-- Empty lines and at most `indent` spaces: the line ends, the column and the text behind. -/
def breaks (indent column : Nat) : List Char → List Char × Nat × List Char
  | [] => ([], column, [])
  | c :: rest =>
    if c == ' ' && column < indent then breaks indent (column + 1) rest
    else if isBreak c then
      let (more, found) := breaks indent 0 rest
      (keptBreak c :: more, found)
    else ([], column, c :: rest)

/-- The line at the start of the text, its end and what follows it. -/
def line (s : List Char) : List Char × List Char × List Char :=
  let text := s.takeWhile fun c => !endsLine c
  match s.dropWhile fun c => !endsLine c with
  | [] => (text, [], [])
  | c :: rest => (text, [keptBreak c], rest)

/-- What stands between two lines, given the end of the first and the line ends behind it. -/
def joint (fold : Bool) (first second : Char) (lineEnd breaks : List Char) : List Char :=
  if fold && lineEnd == ['\n'] && !isTabOrSpace first && !isTabOrSpace second then
    if breaks.isEmpty then [' '] else breaks
  else lineEnd ++ breaks

/-- Reads the lines behind `read`, a text in reverse order; the first argument bounds their
number. Gives the text, the end of the last line and the line ends behind it. -/
def content (fold : Bool) (indent : Nat) :
    Nat → List Char → List Char → List Char × List Char × List Char × List Char
  | 0, read, s => (read, [], [], s)
  | fuel + 1, read, s =>
    let (text, lineEnd, rest) := line s
    let read := text.reverse ++ read
    let (more, column, after) := breaks indent 0 rest
    if column == indent && !after.isEmpty then
      content fold indent fuel
        ((joint fold (next s) (next after) lineEnd more).reverse ++ read) after
    else (read, lineEnd, more, after)

/-- The line ends that stay behind the last line. -/
def chomped (chomping : Chomping) (lineEnd more : List Char) : List Char :=
  match chomping with
  | .strip => []
  | .clip => lineEnd
  | .keep => lineEnd ++ more

/--
The text of a block scalar whose indicator has been read, the text behind it and the column there.
The scalar is indented by `least` columns at the least.
-/
def read (fold : Bool) (least : Nat) (s : List Char) : Except Fault (List Char × List Char) := do
  let (h, below) ← header s
  let (first, column, indent, rest) :=
    match h.increment with
    | some n =>
      let indent := least + n - 1
      let (first, column, rest) := breaks indent 0 below
      (first, column, indent, rest)
    | none =>
      let (first, column, greatest, rest) := lead 0 0 below
      (first, column, max least greatest, rest)
  if column == indent && !rest.isEmpty then
    let (text, lineEnd, more, after) := content fold indent rest.length first.reverse rest
    return (text.reverse ++ chomped h.chomping lineEnd more, after)
  else return (chomped h.chomping [] first, rest)

end DomainCompiler.Yaml.Block

import DomainCompiler.Text.Printable
import DomainCompiler.Yaml.Form
import DomainCompiler.Yaml.Style

/-!
# Writing documents

Collections are written in blocks, two columns deeper at each level; a sequence inside a mapping
is not indented. Scalars are broken at a single blank once they reach beyond column 80.
-/

namespace DomainCompiler.Yaml.Writer

def width : Nat := 80

def newLine (indent : Nat) : List Char :=
  '\n' :: List.replicate indent ' '

/-- A plain scalar from the column on, with a number of blanks held back. -/
def plain (split : Bool) (indent column held : Nat) : List Char → List Char
  | [] => List.replicate held ' '
  | c :: rest =>
    if c == ' ' then plain split indent column (held + 1) rest
    else if held == 1 && width < column && split then
      newLine indent ++ c :: plain split indent (indent + 1) 0 rest
    else List.replicate held ' ' ++ c :: plain split indent (column + held + 1) 0 rest

/-- A run of line ends in quotes: the first one is doubled, where it is a line feed. -/
def quotedBreaks (indent : Nat) (breaks : List Char) : List Char :=
  (if breaks.head? == some '\n' then ['\n'] else []) ++ breaks ++ List.replicate indent ' '

/-- Inside single quotes, from the column on; blanks or line ends are held back. -/
def single (split : Bool) (indent column : Nat) (opened : Bool) (held : Nat) (breaks : List Char) :
    List Char → List Char
  | [] =>
    if breaks.isEmpty then List.replicate held ' ' else quotedBreaks indent breaks
  | c :: rest =>
    if c == ' ' then
      if breaks.isEmpty then single split indent column opened (held + 1) [] rest
      else quotedBreaks indent breaks ++ single split indent indent true 1 [] rest
    else if isBreak c then
      List.replicate held ' ' ++ single split indent (column + held) true 0 (breaks ++ [c]) rest
    else
      let text := if c == '\'' then ['\'', '\''] else [c]
      if !breaks.isEmpty then
        quotedBreaks indent breaks ++ text ++
          single split indent (indent + text.length) true 0 [] rest
      else if held == 1 && width < column && split && opened then
        newLine indent ++ text ++ single split indent (indent + text.length) true 0 [] rest
      else
        List.replicate held ' ' ++ text ++
          single split indent (column + held + text.length) true 0 [] rest

/-- The letter of a short escape. -/
def shortEscape? (c : Char) : Option Char :=
  match c.toNat with
  | 0x00 => some '0'
  | 0x07 => some 'a'
  | 0x08 => some 'b'
  | 0x09 => some 't'
  | 0x0A => some 'n'
  | 0x0B => some 'v'
  | 0x0C => some 'f'
  | 0x0D => some 'r'
  | 0x1B => some 'e'
  | 0x22 => some '"'
  | 0x5C => some '\\'
  | 0x85 => some 'N'
  | 0xA0 => some '_'
  | 0x2028 => some 'L'
  | 0x2029 => some 'P'
  | _ => none

/-- Characters that stand for themselves in double quotes. -/
def isBare (c : Char) : Bool :=
  let n := c.toNat
  c != '"' && c != '\\' && n != 0x2028 && n != 0x2029 && n != 0xFEFF &&
    ((0x20 ≤ n && n ≤ 0x7E) || (0xA0 ≤ n && n ≤ 0xFFFD))

/-- A character in double quotes that does not stand for itself. -/
def escape (c : Char) : List Char :=
  let upperHex (width n : Nat) := (Text.hex width n).map Char.toUpper
  match shortEscape? c with
  | some e => ['\\', e]
  | none =>
    let n := c.toNat
    if n ≤ 0xFF then '\\' :: 'x' :: upperHex 2 n
    else if n ≤ 0xFFFF then '\\' :: 'u' :: upperHex 4 n
    else '\\' :: 'U' :: upperHex 8 n

/-- An escaped line end; a blank behind it is escaped as well. -/
def escapedBreak (indent : Nat) (blank : Bool) : List Char :=
  '\\' :: newLine indent ++ (if blank then ['\\'] else [])

/-- Inside double quotes, from the column on; `held` is written but may still be broken behind. -/
def double (split : Bool) (indent column : Nat) (opened : Bool) (held : Nat) :
    List Char → List Char
  | [] => []
  | c :: rest =>
    let inside := opened && !rest.isEmpty && split
    if isBare c then
      if inside && (c == ' ' || held == 0) && width < column + held then
        escapedBreak indent (c == ' ') ++
          c :: double split indent (indent + if c == ' ' then 1 else 0) true 1 rest
      else c :: double split indent column true (held + 1) rest
    else
      let text := escape c
      let column := column + held + text.length
      if inside && width + 1 < column then
        let blank := next rest == ' '
        text ++ escapedBreak indent blank ++
          double split indent (indent + if blank then 1 else 0) true 0 rest
      else text ++ double split indent column true 0 rest

/-- The lines below the header of a literal scalar, without the last line end. -/
def literalLines (indent : Nat) : List Char → List Char
  | [] => []
  | c :: rest =>
    if c == '\n' then
      if rest.isEmpty then [] else newLine indent ++ literalLines indent rest
    else c :: literalLines indent rest

/-- A scalar from the column on. -/
def scalar (key : Bool) (indent column : Nat) (tag : Tag) (text : List Char) : List Char :=
  match Style.choose key tag text with
  | .plain => plain (!key) indent column 0 text
  | .single => '\'' :: single (!key) indent (column + 1) false 0 [] text ++ ['\'']
  | .double => '"' :: double (!key) indent (column + 1) false 0 text ++ ['"']
  | .literal => '|' :: newLine indent ++ literalLines indent text

def numberText (mark : Char) (n : Nat) : List Char :=
  mark :: 'i' :: 'd' :: Decimal.padZeros 3 (Decimal.ofNat n)

/-- The number and the tag in front of a node, where they are written, each with a blank behind. -/
def properties (number : Option Nat) (tag : Tag) : List Char :=
  (match number with
    | some n => numberText '&' n ++ [' ']
    | none => []) ++
    match tag with
    | .binary => "!!binary ".toList
    | .set => "!!set ".toList
    | _ => []

def scalarNode (key : Bool) (indent column : Nat) (number : Option Nat) (tag : Tag)
    (text : List Char) : List Char :=
  let front := properties number tag
  front ++ scalar key indent (column + front.length) tag text

/-- Whether a form may be a key on one line. -/
def isSimpleKey : Form → Bool
  | .reference _ => true
  | .scalar number tag text =>
    let tagLength := match tag with
      | .null => 6
      | .bool => 6
      | .float => 7
      | .timestamp => 11
      | .binary => 8
      | _ => 5
    let numberLength := match number with
      | some n => (numberText '&' n).length - 1
      | none => 0
    numberLength + tagLength + text.length < 128 && !text.isEmpty && !Style.isMultiline text
  | .sequence items => items.isEmpty
  | .mapping _ _ entries => entries.isEmpty

/-- A key on one line. -/
def simpleKey (indent column : Nat) : Form → List Char
  | .reference n => numberText '*' n
  | .scalar number tag text => scalarNode true (indent + 2) column number tag text
  | .sequence _ => ['[', ']']
  | .mapping number tag _ => properties number tag ++ ['{', '}']

/-- Where a node stands. -/
inductive Place where
  /-- The whole document. -/
  | root
  /-- Behind a mark with which a block may share the line. -/
  | item
  /-- Behind a key on one line. -/
  | value
  deriving DecidableEq, Repr

/-- The indentation of a block at the place. -/
def Place.indent (place : Place) (indent : Nat) : Nat :=
  match place with
  | .root => 0
  | .item => indent + 2
  | .value => indent + 2

/-- What stands in front of the first line of a block that has nothing on its line. -/
def Place.lead (place : Place) (named : Bool) (indent : Nat) : List Char :=
  match place with
  | .root => if named then newLine 0 else []
  | .item => if named then newLine indent else [' ']
  | .value => newLine indent

/-- The blank in front of a node that shares the line with its mark. -/
def Place.blank : Place → List Char
  | .root => []
  | .item => [' ']
  | .value => [' ']

def blockFront (place : Place) (front : List Char) : List Char :=
  if front.isEmpty then [] else place.blank ++ front.dropLast

/-- An entry at the column of its mapping: with a key on one line, or with marks for both. -/
def entry (indent : Nat) (key : Form) (marked : List Char)
    (value : Place → Nat → List Char) : List Char :=
  if isSimpleKey key then
    let text := simpleKey indent indent key
    text ++ ':' :: value .value (indent + text.length + 1)
  else '?' :: marked ++ newLine indent ++ ':' :: value .item (indent + 1)

def block (indent : Nat) (parts : List (List Char)) : List Char :=
  (newLine indent).intercalate parts

mutual

/-- A node behind its mark; `indent` is the column of the block that it is part of, and `column`
the one where the node begins. -/
def node (place : Place) (indent column : Nat) : Form → List Char
  | .reference n => place.blank ++ numberText '*' n
  | .scalar number tag text =>
    place.blank ++
      scalarNode false (indent + 2) (column + place.blank.length) number tag text
  | .sequence forms =>
    if forms.isEmpty then place.blank ++ ['[', ']']
    else
      let own := if place == .value then indent else place.indent indent
      place.lead false own ++ block own (items own forms)
  | .mapping number tag pairs =>
    let front := properties number tag
    if pairs.isEmpty then place.blank ++ front ++ ['{', '}']
    else
      let own := place.indent indent
      blockFront place front ++ place.lead (!front.isEmpty) own ++ block own (entries own pairs)

def items (indent : Nat) : List Form → List (List Char)
  | [] => []
  | item :: rest => ('-' :: node .item indent (indent + 1) item) :: items indent rest

/-- The entries of a mapping at its column. -/
def entries (indent : Nat) : List (Form × Form) → List (List Char)
  | [] => []
  | (key, value) :: rest =>
    entry indent key (node .item indent (indent + 1) key)
      (fun place column => node place indent column value) :: entries indent rest

end

def isOpenEnded : Form → Bool
  | .scalar _ tag text => Style.choose false tag text == .plain
  | _ => false

def document (form : Form) : List Char :=
  node .root 0 0 form ++ '\n' :: (if isOpenEnded form then "...\n".toList else [])

end DomainCompiler.Yaml.Writer

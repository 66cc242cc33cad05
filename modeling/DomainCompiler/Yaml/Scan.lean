import DomainCompiler.Yaml.Block
import DomainCompiler.Yaml.Plain
import DomainCompiler.Yaml.Property
import DomainCompiler.Yaml.Quoted

/-!
# The tokens of a text

A key is known only by the colon behind it: a place where one may begin is remembered, and the
colon puts the tokens that open a key in front of what was read there. Such a place is forgotten
at the end of the line and after 1024 characters. A fault in the text does not undo the tokens in
front of it, which may have a fault of their own.
-/

namespace DomainCompiler.Yaml

/-- A place where a key may have begun. -/
structure KeyStart where
  /-- The number of tokens in front of it. -/
  position : Nat
  /-- Whether a key has to stand there. -/
  required : Bool
  /-- The number of characters behind it. -/
  left : Nat
  line : Nat
  column : Nat
  deriving Repr

/-- What was read of a text. -/
structure Scan where
  cursor : Cursor
  /-- The tokens, the last one first. -/
  tokens : List Token
  /-- The number of tokens. -/
  count : Nat
  /-- The columns of the open block collections, the innermost first. -/
  indents : List Nat
  /-- A place for each open bracket, the innermost first, where a key may have begun. -/
  flowKeys : List (Option KeyStart)
  /-- The same outside of brackets. -/
  blockKey : Option KeyStart
  /-- Whether a key may begin at the next token. -/
  keyAllowed : Bool
  deriving Repr

namespace Scan

def start (text : List Char) : Scan :=
  ⟨Cursor.start text, [], 0, [], [], none, true⟩

def inFlow (s : Scan) : Bool :=
  !s.flowKeys.isEmpty

/-- The least column of what belongs to the innermost block collection. -/
def indent (s : Scan) : Nat :=
  match s.indents with
  | [] => 0
  | i :: _ => i + 1

def emit (t : Token) (s : Scan) : Scan :=
  { s with tokens := t :: s.tokens, count := s.count + 1 }

/-- Puts tokens in front of the one at the position. -/
def insertAt (position : Nat) (ts : List Token) (s : Scan) : Scan :=
  let behind := s.count - position
  { s with
    tokens := s.tokens.take behind ++ ts.reverse ++ s.tokens.drop behind
    count := s.count + ts.length }

def keyStart? (s : Scan) : Option KeyStart :=
  match s.flowKeys with
  | [] => s.blockKey
  | k :: _ => k

def setKeyStart (k : Option KeyStart) (s : Scan) : Scan :=
  match s.flowKeys with
  | [] => { s with blockKey := k }
  | _ :: outer => { s with flowKeys := k :: outer }

def dropKey (s : Scan) : Except Fault Scan :=
  match s.keyStart? with
  | some k => if k.required then .error (.malformed .colonMissing) else .ok (s.setKeyStart none)
  | none => .ok s

/-- Remembers the next token as the start of a key, where one may begin. -/
def saveKey (s : Scan) : Except Fault Scan :=
  if s.keyAllowed then do
    let required := !s.inFlow && s.indents.head? == some s.cursor.column
    let s ← s.dropKey
    let c := s.cursor
    return s.setKeyStart (some ⟨s.count, required, c.left, c.line, c.column⟩)
  else .ok s

def isStale (c : Cursor) (k : KeyStart) : Bool :=
  k.line != c.line || c.left + 1024 < k.left

/-- Forgets a place that is too far back. -/
def freshKey (c : Cursor) : Option KeyStart → Except Fault (Option KeyStart)
  | none => .ok none
  | some k =>
    if isStale c k then
      if k.required then .error (.malformed .colonMissing) else .ok none
    else .ok (some k)

def dropStale (s : Scan) : Except Fault Scan := do
  let flowKeys ← s.flowKeys.mapM (freshKey s.cursor)
  let blockKey ← freshKey s.cursor s.blockKey
  return { s with flowKeys, blockKey }

/-- Ends the block collections that are indented more than the column. -/
def unwind (column : Nat) (s : Scan) : Scan :=
  if s.inFlow then s
  else
    let ended := s.indents.takeWhile (column < ·)
    { s with
      indents := s.indents.drop ended.length
      tokens := List.replicate ended.length .blockEnd ++ s.tokens
      count := s.count + ended.length }

/-- Ends all block collections. -/
def unwindAll (s : Scan) : Scan :=
  if s.inFlow then s
  else
    { s with
      indents := []
      tokens := List.replicate s.indents.length .blockEnd ++ s.tokens
      count := s.count + s.indents.length }

/-- Whether a block collection begins at the column, and the state with it open. -/
def openBlock (column : Nat) (s : Scan) : Bool × Scan :=
  if s.indent ≤ column then (true, { s with indents := column :: s.indents }) else (false, s)

def goTo (rest : List Char) (s : Scan) : Scan :=
  { s with cursor := s.cursor.moveTo rest }

/-- Passes spaces, comments and line ends; the first argument bounds the number of lines. -/
def passBlank : Nat → Scan → Scan
  | 0, s => s
  | fuel + 1, s =>
    let c := s.cursor.skipWhile (· == ' ')
    let c := if next c.rest == '#' then c.skipWhile fun x => !endsLine x else c
    if isBreak (next c.rest) then
      passBlank fuel { s with cursor := c.step, keyAllowed := s.keyAllowed || !s.inFlow }
    else { s with cursor := c }

/-- A mark between documents, or anything else that ends all that is open. -/
def atMargin (s : Scan) : Except Fault Scan := do
  let s ← s.unwindAll.dropKey
  return { s with keyAllowed := false }

def directive (s : Scan) : Except Fault Scan := do
  let s ← s.atMargin
  let (d, rest) ← Property.directive s.cursor.rest.tail
  return (s.emit (.directive d)).goTo rest

def separator (t : Token) (s : Scan) : Except Fault Scan := do
  let s ← s.atMargin
  return (s.emit t).goTo (s.cursor.rest.drop 3)

def advance (t : Token) (s : Scan) : Scan :=
  { s.emit t with cursor := s.cursor.step }

def openFlow (t : Token) (s : Scan) : Except Fault Scan := do
  let s ← s.saveKey
  return { s.advance t with flowKeys := none :: s.flowKeys, keyAllowed := true }

def closeFlow (t : Token) (s : Scan) : Except Fault Scan := do
  let s ← s.dropKey
  match s.flowKeys with
  | [] => .error (.malformed .arrangement)
  | _ :: outer => return { s.advance t with flowKeys := outer, keyAllowed := false }

def flowSeparator (s : Scan) : Except Fault Scan := do
  let s ← s.dropKey
  return { s.advance .separator with keyAllowed := true }

/-- Opens a block collection for an entry or a key that stands at the cursor. -/
def openFor (t : Token) (s : Scan) : Except Fault Scan :=
  if s.inFlow then .ok s
  else if s.keyAllowed then
    match s.openBlock s.cursor.column with
    | (true, s) => .ok (s.emit t)
    | (false, s) => .ok s
  else .error (.malformed .misplaced)

def entry (s : Scan) : Except Fault Scan := do
  let s ← s.openFor .blockSequence
  let s ← s.dropKey
  return { s.advance .entry with keyAllowed := true }

def key (s : Scan) : Except Fault Scan := do
  let s ← s.openFor .blockMapping
  let s ← s.dropKey
  return { s.advance .key with keyAllowed := !s.inFlow }

/-- A colon: it makes a key of what began at the remembered place, or stands behind a marked key. -/
def value (s : Scan) : Except Fault Scan :=
  match s.keyStart? with
  | some k =>
    let s := s.setKeyStart none
    let (opens, s) := if s.inFlow then (false, s) else s.openBlock k.column
    let s := s.insertAt k.position (if opens then [.blockMapping, .key] else [.key])
    .ok { s.advance .value with keyAllowed := false }
  | none => do
    let s ← s.openFor .blockMapping
    return { s.advance .value with keyAllowed := !s.inFlow }

/-- A token that may begin a key, with the text behind it. -/
def part (read : List Char → Except Fault (Token × List Char)) (s : Scan) : Except Fault Scan := do
  let s ← s.saveKey
  let (t, rest) ← read s.cursor.rest
  return { (s.emit t).goTo rest with keyAllowed := false }

def block (fold : Bool) (s : Scan) : Except Fault Scan := do
  let s ← s.dropKey
  let (text, rest) ← Block.read fold (max 1 s.indent) s.cursor.rest.tail
  return { (s.emit (.scalar (String.ofList text) false)).goTo rest with keyAllowed := true }

def quoted (style : Quoted.Style) : Scan → Except Fault Scan :=
  part fun s => do
    let (text, rest) ← Quoted.read style s.tail
    return (.scalar (String.ofList text) false, rest)

def plain (s : Scan) : Except Fault Scan := do
  let s ← s.saveKey
  let r := Plain.read s.inFlow s.indent s.cursor.left s.cursor.rest
  let read := s.emit (.scalar (String.ofList r.text) true)
  return { read.goTo r.rest with keyAllowed := r.multiline }

def reference : Scan → Except Fault Scan :=
  part fun s => (Property.name s.tail).map fun r => (.reference r.1, r.2)

def anchor : Scan → Except Fault Scan :=
  part fun s => (Property.name s.tail).map fun r => (.anchor r.1, r.2)

def tag : Scan → Except Fault Scan :=
  part fun s => (Property.tag s.tail).map fun r => (.tag r.1.1 r.1.2, r.2)

/-- Reads the token at the cursor. -/
def token (s : Scan) : Except Fault Scan :=
  let rest := s.cursor.rest
  let c := next rest
  let margin := s.cursor.column == 0
  let indicates := s.inFlow || endsWord (next rest.tail)
  if c == '%' && margin then s.directive
  else if margin && startsMarker '-' rest then s.separator .documentStart
  else if margin && startsMarker '.' rest then s.separator .documentEnd
  else if c == '[' then s.openFlow .flowSequence
  else if c == '{' then s.openFlow .flowMapping
  else if c == ']' then s.closeFlow .flowSequenceEnd
  else if c == '}' then s.closeFlow .flowMappingEnd
  else if c == ',' then s.flowSeparator
  else if c == '-' && endsWord (next rest.tail) then s.entry
  else if c == '?' && indicates then s.key
  else if c == ':' && indicates then s.value
  else if c == '*' then s.reference
  else if c == '&' then s.anchor
  else if c == '!' then s.tag
  else if c == '|' && !s.inFlow then s.block false
  else if c == '>' && !s.inFlow then s.block true
  else if c == '\'' then s.quoted .single
  else if c == '"' then s.quoted .double
  else if Plain.starts s.inFlow rest then s.plain
  else .error (.malformed .noToken)

def finish (s : Scan) : Except Fault Scan :=
  s.unwindAll.dropKey

/-- Passes blanks and reads a token, none at the end of the text; with the number of lines left. -/
def nextToken (lines : Nat) (s : Scan) : Except Fault (Scan × Bool) := do
  let s ← (s.passBlank lines).dropStale
  if s.cursor.rest.isEmpty then return (← s.finish, false)
  return (← (s.unwind s.cursor.column).token, true)

def settled (s : Scan) : List Token :=
  let positions := (s.blockKey :: s.flowKeys).filterMap fun k => k.map (·.position)
  s.tokens.reverse.take (positions.foldl min s.count)

end Scan

/-- The tokens of a text, up to the fault that ends it where there is one. -/
structure Tokens where
  list : List Token
  fault : Option Fault

namespace Tokens

/-- The tokens of a text, given those behind the state that a step leads to. -/
def ofStep (s : Scan) (more : Scan → Tokens) : Except Fault (Scan × Bool) → Tokens
  | .error f => ⟨s.settled, some f⟩
  | .ok (s, true) => more s
  | .ok (s, false) => ⟨s.tokens.reverse, none⟩

/-- Reads to the end of the text; the first argument bounds the number of its characters. -/
def ofScan : Nat → Scan → Tokens
  | 0, s => ⟨s.settled, some (.malformed .arrangement)⟩
  | fuel + 1, s => ofStep s (ofScan fuel) (s.nextToken (fuel + 1))

/-- The tokens of a text; a mark of the byte order in front of it is passed. -/
def ofText (text : List Char) : Tokens :=
  if text.all isReadable then
    let body := if next text == '\uFEFF' then text.tail else text
    ofScan (body.length + 2) (Scan.start body)
  else ⟨[], some (.malformed .character)⟩

end Tokens

end DomainCompiler.Yaml

import DomainCompiler.Yaml.Character

/-!
# Tokens of documents

Tokens say what stands in a text; block collections, which the text marks by indentation alone,
have tokens for their start and their end.
-/

namespace DomainCompiler.Yaml

inductive Directive where
  | version (major : Nat)
  | handle (name expansion : String)
  | other
  deriving DecidableEq, Repr

inductive Token where
  | directive (d : Directive)
  | documentStart
  | documentEnd
  | blockSequence
  | blockMapping
  | blockEnd
  | flowSequence
  | flowMapping
  | flowSequenceEnd
  | flowMappingEnd
  | entry
  | separator
  | key
  | value
  | reference (name : String)
  | anchor (name : String)
  /-- A tag: its handle, where it has one, and the rest. -/
  | tag (handle : Option String) (suffix : String)
  | scalar (text : String) (plain : Bool)
  deriving DecidableEq, Repr

/-- A place in a text, and the text behind it. -/
structure Cursor where
  rest : List Char
  /-- The number of characters behind the place. -/
  left : Nat
  line : Nat
  column : Nat
  deriving Repr

namespace Cursor

def start (text : List Char) : Cursor :=
  ⟨text, text.length, 0, 0⟩

/-- The place behind the next character. -/
def step (c : Cursor) : Cursor :=
  match c.rest with
  | [] => c
  | ch :: rest =>
    if isBreak ch then ⟨rest, c.left - 1, c.line + 1, 0⟩
    else if ch == '\uFEFF' then ⟨rest, c.left - 1, c.line, c.column⟩
    else ⟨rest, c.left - 1, c.line, c.column + 1⟩

/-- The place behind the next `n` characters. -/
def skip : Nat → Cursor → Cursor
  | 0, c => c
  | n + 1, c => skip n c.step

def moveTo (c : Cursor) (rest : List Char) : Cursor :=
  c.skip (c.left - rest.length)

def skipWhile (p : Char → Bool) (c : Cursor) : Cursor :=
  c.skip (c.rest.takeWhile p).length

@[simp] theorem skip_zero (c : Cursor) : c.skip 0 = c := rfl

@[simp] theorem skip_succ (n : Nat) (c : Cursor) : c.skip (n + 1) = c.step.skip n := rfl

end Cursor

end DomainCompiler.Yaml

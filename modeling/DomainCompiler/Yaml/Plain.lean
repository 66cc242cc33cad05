import DomainCompiler.Yaml.Character

/-!
# Plain scalars

A plain scalar is a run of words. It ends at a comment, at a colon that ends a word, at a line
that is not indented enough and, inside brackets, at their indicators.
-/

namespace DomainCompiler.Yaml.Plain

/-- Whether a plain scalar may start with the text. -/
def starts (flow : Bool) (s : List Char) : Bool :=
  let c := next s
  (!endsWord c && !"-?:,[]\x7b\x7d#&*!|>'\"%@\x60".toList.contains c) ||
    (!endsWord (next s.tail) && (c == '-' || (!flow && (c == '?' || c == ':'))))

/-- Whether a word ends at the character with the given one behind it. -/
def wordEnds (flow : Bool) (c behind : Char) : Bool :=
  endsWord c ||
    (c == ':' && (endsWord behind || (flow && ",[]\x7b\x7d".toList.contains behind))) ||
    (flow && ",?[]\x7b\x7d".toList.contains c)

/-- The word at the start of the text, and what follows it. -/
def word (flow : Bool) : List Char → List Char × List Char
  | [] => ([], [])
  | c :: rest =>
    if wordEnds flow c (next rest) then ([], c :: rest)
    else
      let (w, after) := word flow rest
      (c :: w, after)

/-- The space between two words. -/
structure Gap where
  /-- What stands for it in the scalar; nothing where the scalar ends. -/
  text : List Char
  /-- Whether it holds a line end. -/
  multiline : Bool
  /-- The column behind it, where it holds a line end. -/
  column : Nat
  rest : List Char

/-- Line ends and indentation: the line ends, the last indentation and the text behind, nothing
where a mark between documents comes first. -/
def lines (column : Nat) : List Char → Option (List Char × Nat) × List Char
  | [] => (some ([], column), [])
  | c :: rest =>
    if c == ' ' then lines (column + 1) rest
    else if isBreak c then
      if startsSeparator rest then (none, rest)
      else
        match lines 0 rest with
        | (some (more, column), after) => (some (keptBreak c :: more, column), after)
        | (none, after) => (none, after)
    else (some ([], column), c :: rest)

/-- The space at the start of the text. -/
def gap (s : List Char) : Gap :=
  let spaces := s.takeWhile (· == ' ')
  match s.dropWhile (· == ' ') with
  | [] => ⟨spaces, false, 0, []⟩
  | c :: rest =>
    if isBreak c then
      if startsSeparator rest then ⟨[], true, 0, rest⟩
      else
        match lines 0 rest with
        | (some (more, column), after) => ⟨folded c more, true, column, after⟩
        | (none, after) => ⟨[], true, 0, after⟩
    else ⟨spaces, false, 0, c :: rest⟩

/-- A plain scalar as read. -/
structure Read where
  text : List Char
  /-- Whether a line end stands behind it. -/
  multiline : Bool
  rest : List Char

/-- Reads the words behind `read`, a text in reverse order, and the gap between; the first
argument bounds the number of words. -/
def words (flow : Bool) (indent : Nat) : Nat → List Char → List Char → Bool → List Char → Read
  | 0, read, _, multiline, s => ⟨read.reverse, multiline, s⟩
  | fuel + 1, read, between, multiline, s =>
    match word flow s with
    | ([], _) => ⟨read.reverse, multiline, s⟩
    | (w, rest) =>
      let read := w.reverse ++ (between.reverse ++ read)
      let g := gap rest
      if g.text.isEmpty || next g.rest == '#' || (!flow && g.multiline && g.column < indent) then
        ⟨read.reverse, g.multiline, g.rest⟩
      else words flow indent fuel read g.text g.multiline g.rest

/-- The plain scalar at the start of a text of the given length; `indent` is the least column of its
further lines. -/
def read (flow : Bool) (indent length : Nat) (s : List Char) : Read :=
  words flow indent length [] [] false s

end DomainCompiler.Yaml.Plain

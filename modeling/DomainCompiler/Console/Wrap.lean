import DomainCompiler.Text.Blank
import DomainCompiler.Text.Width

/-!
# Text in lines of a given width

A text is broken between words into lines of at most so many terminal cells. A word that is wider
than a line is cut into pieces, or where that is not wanted its line ends with an ellipsis.
-/

namespace DomainCompiler.Console

open DomainCompiler.Text

abbrev Line := List Char

/-- What happens to a word that is wider than the line. -/
inductive Overflow where
  | fold
  | ellipsis
  deriving DecidableEq, Repr

/-- Controls that are not printed: bell, backspace, vertical tab, form feed, carriage return. -/
def isDropped (c : Char) : Bool :=
  let n := c.toNat
  n == 7 || n == 8 || n == 11 || n == 12 || n == 13

def printed (s : String) : List Char :=
  s.toList.filter fun c => !isDropped c

def blanks (n : Nat) : List Char := List.replicate n ' '

/-- Puts blanks up to the next multiple of eight behind each part but the last one; `column` counts
cells. -/
def joinTabbed (column : Nat) : List (List Char) → List Char
  | [] => []
  | [part] => part
  | part :: rest =>
    let reached := column + cells part
    let n := 8 - reached % 8
    part ++ blanks n ++ joinTabbed (reached + n) rest

def withoutTabs (s : List Char) : List Char :=
  joinTabbed 0 (s.splitOn '\t')

def stripEnd (s : List Char) : List Char :=
  (s.reverse.dropWhile isBlank).reverse

def pushWord (c : Char) : List (List Char) → List (List Char)
  | [] => [[c]]
  | w :: rest => (c :: w) :: rest

/--
The words of a text, each with the blanks behind it and the first one also with those in front.
A word starts at a character that is not blank behind one that is.
-/
def words : List Char → List (List Char)
  | [] => []
  | [c] => [[c]]
  | c :: d :: rest =>
    let ws := words (d :: rest)
    if isBlank c && !isBlank d then [c] :: ws else pushWord c ws

/-- The words; blanks in front of the first one belong to it. -/
def wordsWithLead (s : List Char) : List (List Char) :=
  match words s with
  | a :: b :: rest => if a.all isBlank then (a ++ b) :: rest else a :: b :: rest
  | ws => ws

def pushCluster (k : Cluster) : List (List Char) → List (List Char)
  | [] => [k.chars]
  | w :: rest => (k.chars ++ w) :: rest

/-- Cuts clusters into pieces of at most the width, given the cells already taken. -/
def pieces (width taken : Nat) : List Cluster → List (List Char)
  | [] => [[]]
  | k :: rest =>
    if width < taken + k.width then [] :: pushCluster k (pieces width k.width rest)
    else pushCluster k (pieces width (taken + k.width) rest)

/-- Lines that are being filled: the finished ones, the last one and the cells it takes. -/
structure Filling where
  /-- The finished lines, the last one first. -/
  finished : List Line
  current : Line
  offset : Nat

namespace Filling

def lines (f : Filling) : List Line :=
  (f.current :: f.finished).reverse

def continued (w : List Char) (f : Filling) : Filling :=
  { f with current := f.current ++ w }

def newLine (w : List Char) (f : Filling) : Filling :=
  if f.current.isEmpty && f.finished.isEmpty then { f with current := w }
  else ⟨f.current :: f.finished, w, f.offset⟩

/-- Adds a word. -/
def addWord (width : Nat) (overflow : Overflow) (f : Filling) (w : List Char) : Filling :=
  let size := cells (stripEnd w)
  if f.offset + size ≤ width then { f.continued w with offset := f.offset + cells w }
  else if width < size then
    match overflow with
    | .fold =>
      let ps := pieces width 0 (Cluster.ofText w)
      { ps.foldl (fun f p => f.newLine p) f with offset := cells (ps.getLast?.getD []) }
    | .ellipsis => { f.newLine w with offset := cells w }
  else if f.offset == 0 then f.continued w
  else { f.newLine w with offset := cells w }

end Filling

/-- Removes blanks at the end of a line that is longer than the width, as far as they reach
beyond it. -/
def cropBlanks (width : Nat) (s : Line) : Line :=
  let trailing := s.length - (stripEnd s).length
  s.take (s.length - min trailing (s.length - width))

/-- The start of clusters with exactly so many cells; half of a wide one becomes a blank. -/
def takeCells : Nat → List Cluster → List Char
  | n, [] => blanks n
  | n, k :: rest =>
    if n == 0 then []
    else if n < k.width then blanks n
    else k.chars ++ takeCells (n - k.width) rest

/-- A line of at most the width. -/
def truncated (width : Nat) (overflow : Overflow) (s : Line) : Line :=
  if width < cells s then
    match overflow with
    | .fold => takeCells width (Cluster.ofText s)
    | .ellipsis => takeCells (width - 1) (Cluster.ofText s) ++ ['…']
  else s

def padded (width : Nat) (s : Line) : Line :=
  s ++ blanks (width - cells s)

/-- The line in the middle of the width; an odd blank goes to the right. -/
def centred (width : Nat) (s : Line) : Line :=
  let s := stripEnd s
  padded width (blanks ((width - cells s) / 2) ++ s)

def wrapLine (width : Nat) (overflow : Overflow) (s : List Char) : List Line :=
  let filled := (wordsWithLead (withoutTabs s)).foldl (Filling.addWord width overflow) ⟨[], [], 0⟩
  filled.lines.map fun l => truncated width overflow (cropBlanks width l)

def wrap (width : Nat) (overflow : Overflow) (s : String) : List Line :=
  ((printed s).splitOn '\n').flatMap (wrapLine width overflow)

def endsMeasured (c : Char) : Bool :=
  let n := c.toNat
  n == 10 || (0x1C ≤ n && n ≤ 0x1E) || n == 0x85 || n == 0x2028 || n == 0x2029

def textWidth (s : String) : Nat :=
  (((printed s).splitOnP endsMeasured).map cells).foldl max 0

def unlines (ls : List Line) : String :=
  String.ofList (ls.flatMap (· ++ ['\n']))

end DomainCompiler.Console

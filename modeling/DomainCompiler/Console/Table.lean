import DomainCompiler.Console.Wrap
import DomainCompiler.Number.Rounding

/-!
# Tables

A table has a head and rows of cells between lines. Columns of a fixed width keep it; where the
table is too wide the widest of the others are narrowed first.
-/

namespace DomainCompiler.Console

open DomainCompiler.Text

structure Column where
  title : String
  width : Option Nat := none

structure Table where
  title : String
  columns : List Column
  rows : List (List String)

namespace Table

/-- The cells of a column: its title and those of the rows. -/
def columnCells (t : Table) (index : Nat) (c : Column) : List String :=
  c.title :: t.rows.map fun r => (r[index]?).getD ""

/-- The width that a column asks for in a space, with a blank on both sides. -/
def wantedWidth (t : Table) (space index : Nat) (c : Column) : Nat :=
  min space <|
    match c.width with
    | some w => w + 2
    | none => ((t.columnCells index c).map textWidth).foldl max 0 + 2

def sumOf (widths : List Nat) : Nat :=
  widths.foldl (· + ·) 0

/-- Takes `total` from the marked widths in equal parts, from none more than `limit` or than it has;
`count` is the number of marked widths that remain. -/
def shareOut (limit : Nat) : Nat → Nat → List (Nat × Bool) → List Nat
  | _, _, [] => []
  | total, count, (w, marked) :: rest =>
    if marked && 0 < count then
      let taken := min (min limit w) (Rounding.halfEven total count)
      (w - taken) :: shareOut limit (total - taken) (count - 1) rest
    else w :: shareOut limit total count rest

/-- The greatest of the flexible widths, and the greatest of those below it. -/
def topTwo (widths : List (Nat × Bool)) : Nat × Nat :=
  let flexible := (widths.filter (·.2)).map (·.1)
  let top := flexible.foldl max 0
  (top, (flexible.filter (· != top)).foldl max 0)

/-- Narrows the widest flexible columns until the widths fit; the first argument bounds the number
of rounds. -/
def collapse (limit : Nat) : Nat → List (Nat × Bool) → List (Nat × Bool)
  | 0, widths => widths
  | fuel + 1, widths =>
    let total := sumOf (widths.map (·.1))
    if total ≤ limit then widths
    else
      let excess := total - limit
      let (top, second) := topTwo widths
      if top == second then widths
      else
        let marked := widths.map fun w => (w.1, w.2 && w.1 == top)
        let count := (marked.filter (·.2)).length
        let shared := shareOut (min excess (top - second)) excess count marked
        collapse limit fuel (shared.zip (widths.map (·.2)))

/-- The widths of the columns, with a blank on both sides, in a space of the given width. -/
def columnWidths (t : Table) (space : Nat) : List Nat :=
  let wanted := t.columns.zipIdx.map fun c => (t.wantedWidth space c.2 c.1, c.1.width.isNone)
  let narrowed := collapse space (t.columns.length + space + 1) wanted
  let widths := narrowed.map (·.1)
  if space < sumOf widths then
    let marked := widths.map fun w => (w, decide (0 < w))
    shareOut space (sumOf widths - space) (widths.filter (0 < ·)).length marked
  else widths

def rule (left fill joint right : Char) (widths : List Nat) : Line :=
  left :: [joint].intercalate (widths.map fun w => List.replicate w fill) ++ [right]

def cellLines (width : Nat) (s : String) : List Line :=
  (wrap (width - 2) .ellipsis s).map fun l => ' ' :: padded (width - 2) l ++ [' ']

/-- The lines of a row between vertical lines. -/
def rowLines (mark : Char) (widths : List Nat) (row : List String) : List Line :=
  let cells := widths.zipIdx.map fun w => (w.1, cellLines w.1 ((row[w.2]?).getD ""))
  let height := (cells.map (·.2.length)).foldl max 1
  (List.range height).map fun i =>
    mark :: [mark].intercalate (cells.map fun c => (c.2[i]?).getD (blanks c.1)) ++ [mark]

/-- The lines of a table on a console of the width. -/
def lines (width : Nat) (t : Table) : List Line :=
  let frame := t.columns.length + 1
  let widths := t.columnWidths (width - frame)
  let total := sumOf widths + frame
  (wrap total .fold t.title).map (centred total) ++
    [rule '┏' '━' '┳' '┓' widths] ++
    rowLines '┃' widths (t.columns.map (·.title)) ++
    [rule '┡' '━' '╇' '┩' widths] ++
    t.rows.flatMap (rowLines '│' widths) ++
    [rule '└' '─' '┴' '┘' widths]

end Table

end DomainCompiler.Console

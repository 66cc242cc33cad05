import DomainCompiler.Text.Ranges
import DomainCompiler.Text.WidthTable

/-!
# Width of text in terminal cells

A character without a width of its own is shown with the one in front of it. A joiner also joins
the character behind it, whatever its width, and a selector may widen the character in front.
-/

namespace DomainCompiler.Text

/-- The cells that a character takes: two when wide, none when combining or a control. -/
def cellWidth (c : Char) : Nat :=
  let n := c.toNat
  if 0x20 ≤ n && n < 0x7F then 1
  else if n < 0xA0 then 0
  else if inRanges zeroRanges n then 0
  else if inRanges wideRanges n then 2
  else 1

/-- Characters that are shown as one, and the cells that they take. -/
structure Cluster where
  chars : List Char
  width : Nat
  deriving DecidableEq, Repr

namespace Cluster

def joiner : Char := '\u200D'

def selector : Char := '\uFE0F'

def add (c : Char) (k : Cluster) : Cluster :=
  { k with chars := k.chars ++ [c] }

/--
The clusters of a text that follows an open one; `measured` is the last character with a width,
unless a selector has widened it.
-/
def continued (k : Cluster) (measured : Option Char) : List Char → List Cluster
  | [] => [k]
  | c :: rest =>
    if c == joiner then
      match rest with
      | [] => [k.add c]
      | d :: more => continued ((k.add c).add d) measured more
    else if c == selector && measured.any fun m => inRanges emojiRanges m.toNat then
      continued { k.add c with width := k.width + 1 } none rest
    else if cellWidth c == 0 then continued (k.add c) measured rest
    else k :: continued ⟨[c], cellWidth c⟩ (some c) rest

def ofText : List Char → List Cluster
  | [] => []
  | c :: rest => continued ⟨[c], cellWidth c⟩ (if cellWidth c == 0 then none else some c) rest

end Cluster

def cells (s : List Char) : Nat :=
  (Cluster.ofText s).foldl (fun n k => n + k.width) 0

@[simp] theorem cells_nil : cells [] = 0 := rfl

end DomainCompiler.Text

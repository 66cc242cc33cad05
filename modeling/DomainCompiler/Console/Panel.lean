import DomainCompiler.Console.Wrap

/-!
# Panels

A panel is a frame with round corners around a text, with a title in its upper edge.
-/

namespace DomainCompiler.Console

open DomainCompiler.Text

structure Panel where
  title : String
  content : String
  /-- Whether the frame is only as wide as the content. -/
  fit : Bool := false

namespace Panel

def titleText (p : Panel) : List Char :=
  ' ' :: printed p.title ++ [' ']

def innerWidth (width : Nat) (p : Panel) : Nat :=
  let inside := width - 2
  if p.fit then min inside (max (textWidth p.content + 2) (cells p.titleText + 2)) else inside

/-- The title between dashes, over the whole width. -/
def titleLine (width : Nat) (title : List Char) : Line :=
  let title := truncated width .fold title
  let excess := width - cells title
  let left := excess / 2
  List.replicate left '─' ++ title ++ List.replicate (excess - left) '─'

/-- The lines of a panel on a console of the width. -/
def lines (width : Nat) (p : Panel) : List Line :=
  let inner := p.innerWidth width
  ('╭' :: '─' :: titleLine (inner - 2) p.titleText ++ ['─', '╮']) ::
    (wrap (inner - 2) .fold p.content).map
      (fun l => '│' :: ' ' :: padded (inner - 2) l ++ [' ', '│']) ++
    ['╰' :: List.replicate inner '─' ++ ['╯']]

end Panel

end DomainCompiler.Console

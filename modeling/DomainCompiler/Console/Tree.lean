import DomainCompiler.Console.Wrap

/-!
# Trees

A label with the trees below it; lines in front of the labels show what belongs to what.
-/

namespace DomainCompiler.Console

inductive Tree where
  | node (label : String) (children : List Tree)

namespace Tree

def leaf (label : String) : Tree := .node label []

mutual

/-- The lines of a tree whose first line follows `front` and whose other lines follow `rest`. -/
def linesWith (width : Nat) (front rest : Line) : Tree → List Line
  | .node label children =>
    let own := wrap (width - front.length) .fold label
    (match own with
      | [] => []
      | first :: more => (front ++ first) :: more.map (rest ++ ·)) ++
      childLines width rest children

/-- The lines of the trees below a node. -/
def childLines (width : Nat) (front : Line) : List Tree → List Line
  | [] => []
  | [last] => linesWith width (front ++ "└── ".toList) (front ++ blanks 4) last
  | child :: more =>
    linesWith width (front ++ "├── ".toList) (front ++ "│   ".toList) child ++
      childLines width front more

end

def lines (width : Nat) (t : Tree) : List Line :=
  linesWith width [] [] t

end Tree

end DomainCompiler.Console

/-!
# Tables of code point ranges

Properties of characters are given as ascending lists of closed ranges of code points.
-/

namespace DomainCompiler.Text

def inRanges (table : List (Nat × Nat)) (n : Nat) : Bool :=
  table.any fun r => r.1 ≤ n && n ≤ r.2

end DomainCompiler.Text

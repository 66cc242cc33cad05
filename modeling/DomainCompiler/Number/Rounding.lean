/-!
# Rounding a quotient

A quotient is rounded to the nearest whole number and a half to the even neighbour.
-/

namespace DomainCompiler.Rounding

/-- The nearest whole number to `num / den`; a half goes to the even neighbour. -/
def halfEven (num den : Nat) : Nat :=
  let q := num / den
  let r := num % den
  if 2 * r < den then q
  else if den < 2 * r then q + 1
  else if q % 2 = 0 then q else q + 1

end DomainCompiler.Rounding

import DomainCompiler.Text.Blank
import DomainCompiler.Text.DigitTable

/-!
# Decimal digits of all scripts

A number may be written with the decimal digits of any script, and with any blanks around it. Its
plain text has the ASCII digits and the space in their place.
-/

namespace DomainCompiler.Text

def digitValue? (c : Char) : Option Nat :=
  (digitZeros.find? fun first => first ≤ c.toNat && c.toNat < first + 10).map fun first =>
    c.toNat - first

/-- The ASCII character that stands for a digit or a blank; any other character is its own. -/
def plainNumeral (c : Char) : Char :=
  if c.toNat < 0x80 then c
  else if isBlank c then ' '
  else
    match digitValue? c with
    | some d => Char.ofNat (48 + d)
    | none => c

theorem plainNumeral_of_ascii {c : Char} (h : c.toNat < 0x80) : plainNumeral c = c :=
  if_pos h

def isNumeralBlank (c : Char) : Bool :=
  c == ' ' || (0x09 ≤ c.toNat && c.toNat ≤ 0x0D)

def plainNumber (s : List Char) : List Char :=
  (((s.map plainNumeral).dropWhile isNumeralBlank).reverse.dropWhile isNumeralBlank).reverse

@[simp] theorem plainNumber_nil : plainNumber [] = [] := rfl

end DomainCompiler.Text

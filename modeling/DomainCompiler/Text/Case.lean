import DomainCompiler.Text.CaseTable
import DomainCompiler.Text.Ranges

/-!
# Upper and lower case

The full case mappings of Unicode: one character may become several, and a capital sigma at the
end of a word becomes the final form.
-/

namespace DomainCompiler.Text

/-- The single character that a table of runs maps the code point to. -/
def shiftIn (table : List CaseRange) (n : Nat) : Option Char :=
  match table.find? fun r => r.first ≤ n && n ≤ r.last && (n - r.first) % r.stride == 0 with
  | some r => some (Char.ofNat (Int.toNat (n + r.shift)))
  | none => none

/-- The characters that a table of one-to-many mappings gives for the code point. -/
def manyIn (table : List (Nat × List Nat)) (n : Nat) : Option (List Char) :=
  (table.lookup n).map (·.map Char.ofNat)

/-- The upper case of one character. -/
def upperChar (c : Char) : List Char :=
  if c.toNat < 0x80 then [c.toUpper]
  else
    match manyIn upperMany c.toNat with
    | some cs => cs
    | none => [(shiftIn upperRanges c.toNat).getD c]

/-- The lower case of one character outside a word. -/
def lowerChar (c : Char) : List Char :=
  if c.toNat < 0x80 then [c.toLower]
  else
    match manyIn lowerMany c.toNat with
    | some cs => cs
    | none => [(shiftIn lowerRanges c.toNat).getD c]

def isCased (c : Char) : Bool :=
  if c.toNat < 0x80 then c.isAlpha else inRanges casedRanges c.toNat

/-- Characters that are passed over when the neighbours of a sigma are looked at. -/
def isCaseIgnorable (c : Char) : Bool :=
  inRanges ignorableRanges c.toNat

/-- Whether the first character that is not passed over is cased. -/
def meetsCased (s : List Char) : Bool :=
  match s.dropWhile isCaseIgnorable with
  | [] => false
  | c :: _ => isCased c

/-- Lower case of a text; the first argument holds the characters before it, nearest first. -/
def lowerAfter : List Char → List Char → List Char
  | _, [] => []
  | before, c :: rest =>
    (if c == 'Σ' then
      [if meetsCased before && !meetsCased rest then 'ς' else 'σ']
    else lowerChar c) ++ lowerAfter (c :: before) rest

def lower (s : List Char) : List Char :=
  lowerAfter [] s

def upper (s : List Char) : List Char :=
  s.flatMap upperChar

@[simp] theorem upper_nil : upper [] = [] := rfl

@[simp] theorem lower_nil : lower [] = [] := rfl

theorem upperChar_ascii {c : Char} (h : c.toNat < 0x80) : upperChar c = [c.toUpper] := by
  simp [upperChar, h]

theorem lowerChar_ascii {c : Char} (h : c.toNat < 0x80) : lowerChar c = [c.toLower] := by
  simp [lowerChar, h]

/-- In ASCII there is no sigma, and letters are lowered one by one. -/
theorem lower_ascii {s : List Char} (h : ∀ c ∈ s, c.toNat < 0x80) :
    lower s = s.map Char.toLower := by
  have hafter : ∀ before, lowerAfter before s = s.map Char.toLower := by
    induction s with
    | nil => exact fun _ => rfl
    | cons c rest ih =>
      intro before
      have hc := h c List.mem_cons_self
      have hsigma : c ≠ 'Σ' := by
        rintro rfl
        exact absurd hc (by decide)
      rw [lowerAfter, beq_eq_false_iff_ne.mpr hsigma, lowerChar_ascii hc,
        ih (fun c hc => h c (List.mem_cons_of_mem _ hc)) (c :: before)]
      rfl
  exact hafter []

/--
The character that the letters `i`, `k` and `s` share with their look-alikes in other scripts,
and the lower-case letter of ASCII otherwise: two characters match without regard to case when
these agree.
-/
def foldLetter (c : Char) : Char :=
  if c == '\u0131' || c == '\u0130' then 'i'
  else if c == '\u212A' then 'k'
  else if c == '\u017F' then 's'
  else c.toLower

end DomainCompiler.Text

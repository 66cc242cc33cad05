import DomainCompiler.Naming.Spelling
import Mathlib.Data.List.Basic

/-!
# Pascal case is a normal form

A name in Pascal case holds no separator and starts with a capital, so that putting it in Pascal
case again changes nothing. This rests on what upper case leads to: characters that upper case
leaves alone and that separate no words. The tables map some fourteen hundred characters, too many
to try one by one against all runs. A run is compared as a whole with the code points that it has
to stay clear of, and what this says of a single character is arithmetic.
-/

namespace DomainCompiler.Text

namespace CaseRange

/-- The code point is one of the run. -/
def Covers (r : CaseRange) (n : Nat) : Prop :=
  r.first ≤ n ∧ n ≤ r.last ∧ (n - r.first) % r.stride = 0

def image (r : CaseRange) (n : Nat) : Nat := Int.toNat (n + r.shift)

def lowest (r : CaseRange) : Nat := r.image r.first

def highest (r : CaseRange) : Nat := r.image r.last

/-- The images of the run lie outside `first` to `last`, or between its steps of two. -/
def avoids (r : CaseRange) (first last stride : Nat) : Bool :=
  Nat.blt last r.lowest || Nat.blt r.highest first ||
    ((Nat.beq r.stride 2 || Nat.beq r.lowest r.highest) && Nat.beq stride 2 &&
      Nat.beq ((r.lowest + first) % 2) 1)

variable {r q : CaseRange} {n : Nat}

theorem image_eq (h : 0 < r.lowest) (hn : r.Covers n) : r.image n = r.lowest + (n - r.first) := by
  have hfirst := hn.1
  simp only [lowest, image] at h ⊢
  omega

theorem image_le_highest (hn : r.Covers n) : r.image n ≤ r.highest := by
  have hlast := hn.2.1
  simp only [highest, image]
  omega

theorem not_covers_image (h : 0 < r.lowest) (havoids : r.avoids q.first q.last q.stride = true)
    (hn : r.Covers n) : ¬q.Covers (r.image n) := by
  rintro ⟨hfirst, hlast, hstep⟩
  have himage := image_eq h hn
  have hhighest := image_le_highest hn
  simp only [avoids, Bool.or_eq_true, Bool.and_eq_true, Nat.blt_eq, Nat.beq_eq] at havoids
  rcases havoids with (hbelow | habove) | ⟨⟨heven, htwo⟩, hodd⟩
  · omega
  · omega
  · -- Images of one parity do not meet steps of the other.
    rw [htwo] at hstep
    rcases heven with heven | hsingle
    · have hparity := hn.2.2
      rw [heven] at hparity
      omega
    · omega

theorem image_outside (h : 0 < r.lowest) {first last : Nat} (havoids : r.avoids first last 1 = true)
    (hn : r.Covers n) : r.image n < first ∨ last < r.image n := by
  have hsteps : ¬(⟨first, last, 1, 0⟩ : CaseRange).Covers (r.image n) :=
    not_covers_image h havoids hn
  simp only [Covers, Nat.mod_one, and_true, not_and] at hsteps
  omega

end CaseRange

theorem shiftIn_eq_none {table : List CaseRange} {n : Nat} (h : ∀ r ∈ table, ¬r.Covers n) :
    shiftIn table n = none := by
  have hnone : (table.find? fun r =>
      r.first ≤ n && n ≤ r.last && (n - r.first) % r.stride == 0) = none := by
    refine List.find?_eq_none.mpr fun r hr hcovers => h r hr ?_
    simpa [CaseRange.Covers, and_assoc] using hcovers
  rw [shiftIn, hnone]

theorem exists_of_shiftIn_eq_some {table : List CaseRange} {n : Nat} {c : Char}
    (h : shiftIn table n = some c) : ∃ r ∈ table, r.Covers n ∧ c = Char.ofNat (r.image n) := by
  rw [shiftIn] at h
  split at h
  · next r hfound =>
    cases h
    have hcovers := List.find?_some hfound
    refine ⟨r, List.mem_of_find?_eq_some hfound, ?_, rfl⟩
    simpa [CaseRange.Covers, and_assoc] using hcovers
  · cases h

theorem manyIn_eq_none {table : List (Nat × List Nat)} {n : Nat} (h : ∀ e ∈ table, e.1 ≠ n) :
    manyIn table n = none := by
  rw [manyIn, Option.map_eq_none_iff, List.lookup_eq_none_iff]
  intro e he
  simpa using fun hn => h e he hn.symm

theorem exists_of_manyIn_eq_some {table : List (Nat × List Nat)} {n : Nat} {cs : List Char}
    (h : manyIn table n = some cs) : ∃ e ∈ table, cs = e.2.map Char.ofNat := by
  obtain ⟨codes, hcodes, rfl⟩ := Option.map_eq_some_iff.mp h
  obtain ⟨before, after, rfl, -⟩ := List.lookup_eq_some_iff.mp hcodes
  exact ⟨(n, codes), List.mem_append_right _ List.mem_cons_self, rfl⟩

theorem toNat_ofNat {n : Nat} (h : n.isValidChar) : (Char.ofNat n).toNat = n := by
  rw [Char.ofNat, dif_pos h]
  rfl

/-- What is tried for every code point of ASCII holds of every character of ASCII. -/
theorem forall_ascii {P : Char → Prop} (h : ∀ n < 0x80, P (Char.ofNat n)) (c : Char)
    (hc : c.toNat < 0x80) : P c := by
  have hcode := h c.toNat hc
  rwa [Char.ofNat_toNat] at hcode

end DomainCompiler.Text

namespace DomainCompiler.Naming

open DomainCompiler.Text

/-! ### Capitals -/

/-- Upper case leaves the character alone, and it separates no words. -/
structure Capital (c : Char) : Prop where
  upperChar : upperChar c = [c]
  isSeparator : isSeparator c = false

instance (c : Char) : Decidable (Capital c) :=
  decidable_of_iff (upperChar c = [c] ∧ isSeparator c = false)
    ⟨fun h => ⟨h.1, h.2⟩, fun h => ⟨h.upperChar, h.isSeparator⟩⟩

/-- The separators beyond ASCII. -/
def separatorRanges : List (Nat × Nat) :=
  [(0x85, 0x85), (0xA0, 0xA0), (0x1680, 0x1680), (0x2000, 0x200A), (0x2028, 0x2029),
    (0x202F, 0x202F), (0x205F, 0x205F), (0x3000, 0x3000)]

theorem isSeparator_eq_false {c : Char} (h : 0x80 ≤ c.toNat)
    (houtside : ∀ b ∈ separatorRanges, c.toNat < b.1 ∨ b.2 < c.toNat) : isSeparator c = false := by
  simp only [separatorRanges, List.forall_mem_cons] at houtside
  have hblank : isBlank c = false := by
    rw [Bool.eq_false_iff]
    intro hblank
    simp only [isBlank, Bool.or_eq_true, Bool.and_eq_true, decide_eq_true_eq, beq_iff_eq] at hblank
    omega
  have hhyphen : c ≠ '-' := by
    rintro rfl
    exact absurd h (by decide)
  have hline : c ≠ '_' := by
    rintro rfl
    exact absurd h (by decide)
  simp [isSeparator, hblank, hhyphen, hline]

/-- What makes the images of a run capitals: they are characters, clear of both tables and of the
separators. A run into ASCII has one character. -/
def isClear (r : CaseRange) : Bool :=
  if Nat.blt r.lowest 0x80 then
    Nat.beq r.first r.last && decide (Capital (Char.ofNat r.lowest))
  else
    (Nat.blt r.highest 0xD800 || (Nat.blt 0xDFFF r.lowest && Nat.blt r.highest 0x110000)) &&
      upperRanges.all (fun q => r.avoids q.first q.last q.stride) &&
      upperMany.all (fun e => r.avoids e.1 e.1 1) && separatorRanges.all fun b => r.avoids b.1 b.2 1

theorem isClear_of_mem_upperRanges : ∀ r ∈ upperRanges, isClear r = true := by
  decide +kernel

theorem capital_of_isClear {r : CaseRange} (h : isClear r = true) {n : Nat} (hn : r.Covers n) :
    Capital (Char.ofNat (r.image n)) := by
  rw [isClear] at h
  split at h
  · obtain ⟨hsingle, hcapital⟩ := Bool.and_eq_true_iff.mp h
    have hfirst : n = r.first := by
      have hlast := Nat.eq_of_beq_eq_true hsingle
      have hbounds := hn.2.1
      exact Nat.le_antisymm (by omega) hn.1
    rw [hfirst]
    exact of_decide_eq_true hcapital
  · next hascii =>
    simp only [Nat.blt_eq, Nat.not_lt] at hascii
    have hpos : 0 < r.lowest := by omega
    simp only [Bool.and_eq_true, Bool.or_eq_true, Nat.blt_eq, List.all_eq_true] at h
    obtain ⟨⟨⟨hvalid, hranges⟩, hmany⟩, hseparators⟩ := h
    have himage := CaseRange.image_eq hpos hn
    have hhighest := CaseRange.image_le_highest hn
    have hchar : (r.image n).isValidChar := by
      rw [Nat.isValidChar]
      omega
    have hcode : (Char.ofNat (r.image n)).toNat = r.image n := toNat_ofNat hchar
    have hbeyond : 0x80 ≤ (Char.ofNat (r.image n)).toNat := by omega
    constructor
    case upperChar =>
      have hmany' : manyIn upperMany (r.image n) = none := by
        refine manyIn_eq_none fun e he heq => ?_
        have houtside := CaseRange.image_outside hpos (hmany e he) hn
        omega
      have hshift : shiftIn upperRanges (r.image n) = none :=
        shiftIn_eq_none fun q hq => CaseRange.not_covers_image hpos (hranges q hq) hn
      rw [upperChar, if_neg (by omega), hcode, hmany', hshift]
      rfl
    case isSeparator =>
      refine isSeparator_eq_false hbeyond fun b hb => ?_
      rw [hcode]
      exact CaseRange.image_outside hpos (hseparators b hb) hn

/-- Whether the first of several images is a capital and none of them a separator. -/
def leadsToCapital : List Char → Bool
  | [] => false
  | u :: rest => decide (Capital u) && rest.all (!isSeparator ·)

theorem leadsToCapital_of_mem_upperMany :
    ∀ e ∈ upperMany, leadsToCapital (e.2.map Char.ofNat) = true := by
  decide +kernel

theorem capital_toUpper_ascii :
    ∀ c : Char, c.toNat < 0x80 → isSeparator c = false → Capital c.toUpper :=
  forall_ascii (by decide +kernel)

/-- The upper case of what is no separator starts with a capital and separates no words. -/
theorem exists_upperChar_eq_cons {c : Char} (h : isSeparator c = false) :
    ∃ u rest, upperChar c = u :: rest ∧ Capital u ∧ ∀ x ∈ rest, isSeparator x = false := by
  by_cases hascii : c.toNat < 0x80
  · have hcapital := capital_toUpper_ascii c hascii h
    exact ⟨_, [], upperChar_ascii hascii, hcapital, List.forall_mem_nil _⟩
  · cases hmany : manyIn upperMany c.toNat with
    | some cs =>
      obtain ⟨e, he, rfl⟩ := exists_of_manyIn_eq_some hmany
      have hleads := leadsToCapital_of_mem_upperMany e he
      have hupper : upperChar c = e.2.map Char.ofNat := by rw [upperChar, if_neg hascii, hmany]
      rw [hupper]
      cases hcs : e.2.map Char.ofNat with
      | nil => simp [hcs, leadsToCapital] at hleads
      | cons u rest =>
        simp only [hcs, leadsToCapital, Bool.and_eq_true, decide_eq_true_eq, List.all_eq_true,
          Bool.not_eq_true'] at hleads
        exact ⟨u, rest, rfl, hleads⟩
    | none =>
      have hupper : upperChar c = [(shiftIn upperRanges c.toNat).getD c] := by
        rw [upperChar, if_neg hascii, hmany]
      cases hshift : shiftIn upperRanges c.toNat with
      | some u =>
        obtain ⟨r, hr, hcovers, rfl⟩ := exists_of_shiftIn_eq_some hshift
        rw [hshift] at hupper
        have hcapital := capital_of_isClear (isClear_of_mem_upperRanges r hr) hcovers
        exact ⟨_, [], hupper, hcapital, List.forall_mem_nil _⟩
      | none =>
        rw [hshift] at hupper
        exact ⟨c, [], hupper, ⟨hupper, h⟩, List.forall_mem_nil _⟩

/-! ### Names -/

theorem isSeparator_of_mem_joinWords {opening : Bool} {s : List Char} :
    ∀ c ∈ joinWords opening s, isSeparator c = false := by
  induction s generalizing opening with
  | nil => exact List.forall_mem_nil _
  | cons c rest ih =>
    rw [joinWords]
    by_cases hc : isSeparator c = true
    · rw [if_pos hc]
      exact ih
    · rw [if_neg hc, List.forall_mem_append]
      refine ⟨?_, ih⟩
      rw [Bool.not_eq_true] at hc
      cases opening with
      | false => simpa using hc
      | true =>
        obtain ⟨u, more, hupper, hcapital, hmore⟩ := exists_upperChar_eq_cons hc
        rw [if_pos rfl, hupper, List.forall_mem_cons]
        exact ⟨hcapital.isSeparator, hmore⟩

theorem joinWords_eq_self {s : List Char} (h : ∀ c ∈ s, isSeparator c = false) :
    joinWords false s = s := by
  induction s with
  | nil => rfl
  | cons c rest ih =>
    obtain ⟨hc, hrest⟩ := List.forall_mem_cons.mp h
    rw [joinWords, hc, ih hrest]
    rfl

/-- The name holds no separator and starts with a capital. -/
structure IsPascal (s : List Char) : Prop where
  isSeparator : ∀ c ∈ s, isSeparator c = false
  capital : ∀ u rest, s = u :: rest → Capital u

theorem isPascal_capitalize {s : List Char} (h : ∀ c ∈ s, isSeparator c = false) :
    IsPascal (capitalize s) := by
  cases s with
  | nil => exact ⟨List.forall_mem_nil _, nofun⟩
  | cons c rest =>
    obtain ⟨hc, hrest⟩ := List.forall_mem_cons.mp h
    obtain ⟨u, more, hupper, hcapital, hmore⟩ := exists_upperChar_eq_cons hc
    rw [capitalize, hupper]
    refine ⟨?_, fun v tail heq => ?_⟩
    · rw [List.cons_append, List.forall_mem_cons, List.forall_mem_append]
      exact ⟨hcapital.isSeparator, hmore, hrest⟩
    · obtain ⟨rfl, -⟩ := List.cons.inj heq
      exact hcapital

theorem isPascal_pascalChars (s : List Char) : IsPascal (pascalChars s) :=
  isPascal_capitalize isSeparator_of_mem_joinWords

theorem IsPascal.capitalize_eq {s : List Char} (h : IsPascal s) : capitalize s = s := by
  cases s with
  | nil => rfl
  | cons u rest =>
    rw [capitalize, (h.capital u rest rfl).upperChar]
    rfl

theorem IsPascal.pascalChars_eq {s : List Char} (h : IsPascal s) : pascalChars s = s := by
  rw [pascalChars, joinWords_eq_self h.isSeparator, h.capitalize_eq]

theorem pascalChars_pascalChars (s : List Char) : pascalChars (pascalChars s) = pascalChars s :=
  (isPascal_pascalChars s).pascalChars_eq

/-- A name in Pascal case is its own Pascal case. -/
@[simp] theorem pascal_pascal (s : String) : pascal (pascal s) = pascal s := by
  rw [pascal, toList_pascal, pascalChars_pascalChars, pascal]

/-- A class is called by its own name in camel case. -/
theorem camel_pascal (s : String) : camel (pascal s) = camel s := by
  rw [camel, camel, toList_pascal, camelChars, pascalChars_pascalChars]
  rfl

end DomainCompiler.Naming

import DomainCompiler.Proofs.Naming.OneWord
import Mathlib.Data.List.Forall2
import Mathlib.Data.Nat.Bitwise

/-!
# Words from their end

A rule of number looks at the end of a word. Words are read from their end and closed by a mark
where they start, so that a rule for whole words is a rule for an ending like any other. An ending
gives for each place the characters that may stand there, as the bits of a number. So it is a matter
of arithmetic whether one ending says that another is there, or that it is not.
-/

namespace DomainCompiler.Naming

open DomainCompiler.Text

/-- Stands before the first letter of a word. -/
def startMark : Char := Char.ofNat 0

/-- The word from its end to the mark. -/
def fromEnd (s : List Char) : List Char := s.reverse ++ [startMark]

theorem fromEnd_injective {s s' : List Char} (h : fromEnd s = fromEnd s') : s = s' :=
  List.reverse_inj.mp (List.append_left_inj [startMark] |>.mp h)

/-! ### Sets of characters -/

/-- A set of characters: the bits of their code points. -/
abbrev Letters := Nat

namespace Letters

def has (s : Letters) (c : Char) : Bool := s.testBit c.toNat

def only (c : Char) : Letters := 2 ^ c.toNat

/-- All letters and digits. -/
def alphabet : List Char :=
  ['a', 'b', 'c', 'd', 'e', 'f', 'g', 'h', 'i', 'j', 'k', 'l', 'm', 'n', 'o', 'p', 'q', 'r', 's',
   't', 'u', 'v', 'w', 'x', 'y', 'z', 'A', 'B', 'C', 'D', 'E', 'F', 'G', 'H', 'I', 'J', 'K', 'L',
   'M', 'N', 'O', 'P', 'Q', 'R', 'S', 'T', 'U', 'V', 'W', 'X', 'Y', 'Z', '0', '1', '2', '3', '4',
   '5', '6', '7', '8', '9']

/-- The characters that can fit, if they are letters or digits. -/
def candidates : Glyph → List Char
  | .letter a => [a, a.toUpper]
  | .ascii a => [a, a.toUpper]
  | .exactly a => [a]
  | .among cs => cs ++ cs.map Char.toUpper
  | .outside _ => alphabet

/-- The letters and digits that fit. -/
def ofGlyph (g : Glyph) : Letters :=
  ((candidates g).filter fun c => c.isAlphanum && g.fits c).foldr (fun c s => Nat.lor (only c) s) 0

theorem has_only (c c' : Char) : (only c).has c' = decide (c = c') := by
  rw [has, only, Nat.testBit_two_pow]
  exact decide_eq_decide.mpr Char.toNat_inj

theorem has_land (s s' : Letters) (c : Char) : has (Nat.land s s') c = (s.has c && s'.has c) :=
  Nat.testBit_land s s' c.toNat

theorem has_foldr_only (cs : List Char) (c : Char) :
    has (cs.foldr (fun c s => Nat.lor (only c) s) 0) c = cs.contains c := by
  induction cs with
  | nil => exact Nat.zero_testBit c.toNat
  | cons c' cs ih =>
    have hlor := Nat.testBit_lor (only c') (cs.foldr (fun c s => Nat.lor (only c) s) 0) c.toNat
    rw [List.foldr_cons, List.contains_cons, ← ih, BEq.comm, beq_eq_decide, ← has_only]
    exact hlor

theorem mem_alphabet {c : Char} (hc : c.isAlphanum = true) : c ∈ alphabet := by
  have hall : ∀ n < 0x80, (Char.ofNat n).isAlphanum = true → Char.ofNat n ∈ alphabet := by
    decide +kernel
  have h := hall c.toNat (toNat_lt_of_isAlphanum hc)
  rw [Char.ofNat_toNat] at h
  exact h hc

theorem mem_candidates_of_fits {g : Glyph} {c : Char} (hc : c.isAlphanum = true)
    (h : g.fits c = true) : c ∈ candidates g := by
  have hcases : c = c.toLower ∨ c = c.toLower.toUpper := (inWord hc).eq_or_eq
  cases g with
  | letter a =>
    rw [Glyph.fits, (inWord hc).foldLetter, beq_iff_eq] at h
    rw [h] at hcases
    simpa [candidates] using hcases
  | ascii a =>
    rw [Glyph.fits, beq_iff_eq] at h
    rw [h] at hcases
    simpa [candidates] using hcases
  | exactly a =>
    rw [Glyph.fits, beq_iff_eq] at h
    exact List.mem_singleton.mpr h
  | among cs =>
    rw [Glyph.fits, (inWord hc).foldLetter, List.contains_iff_mem] at h
    rcases hcases with hlower | hupper
    · exact List.mem_append_left _ (hlower ▸ h)
    · exact List.mem_append_right _ (List.mem_map.mpr ⟨c.toLower, h, hupper.symm⟩)
  | outside cs => exact mem_alphabet hc

theorem has_ofGlyph (g : Glyph) {c : Char} (hc : c.isAlphanum = true) :
    (ofGlyph g).has c = g.fits c := by
  rw [ofGlyph, has_foldr_only, Bool.eq_iff_iff, List.contains_iff_mem, List.mem_filter, hc,
    Bool.true_and]
  exact ⟨And.right, fun h => ⟨mem_candidates_of_fits hc h, h⟩⟩

/-- The mark where words start is no letter. -/
theorem has_ofGlyph_startMark (g : Glyph) : (ofGlyph g).has startMark = false := by
  have hmark : startMark.isAlphanum = false := by decide
  rw [ofGlyph, has_foldr_only, Bool.eq_false_iff, ne_eq, List.contains_iff_mem, List.mem_filter,
    hmark]
  simp

end Letters

/-! ### Endings -/

/-- What may stand at the end of a word, from the end. -/
abbrev Ending := List Letters

namespace Ending

/-- Whether the word, read from the end, starts with characters of the sets. -/
def fits : Ending → List Char → Bool
  | [], _ => true
  | s :: p, c :: t => s.has c && fits p t
  | _ :: _, [] => false

/-- No word has both endings. -/
def excludes : Ending → Ending → Bool
  | s :: p, s' :: q => Nat.beq (Nat.land s s') 0 || excludes p q
  | _, _ => false

/-- Every word with the first ending has the second. -/
def implies : Ending → Ending → Bool
  | _, [] => true
  | s :: p, s' :: q => Nat.beq (Nat.land s s') s && implies p q
  | [], _ :: _ => false

/-- What words with both endings end in. -/
def meet : Ending → Ending → Ending
  | s :: p, s' :: q => Nat.land s s' :: meet p q
  | p, [] => p
  | [], q => q

variable {p q : Ending} {t : List Char}

theorem fits_append : fits (p ++ q) t = (fits p t && fits q (t.drop p.length)) := by
  induction p generalizing t with
  | nil => rfl
  | cons s p ih =>
    cases t with
    | nil => rfl
    | cons c t => rw [List.cons_append, fits, fits, ih, Bool.and_assoc, List.length_cons]; rfl

theorem fits_meet (hp : fits p t = true) (hq : fits q t = true) : fits (meet p q) t = true := by
  induction p generalizing q t with
  | nil => cases q <;> exact hq
  | cons s p ih =>
    cases q with
    | nil => exact hp
    | cons s' q =>
      cases t with
      | nil => cases hp
      | cons c t =>
        rw [fits, Bool.and_eq_true] at hp hq
        rw [meet, fits, Letters.has_land, hp.1, hq.1, ih hp.2 hq.2]
        rfl

theorem fits_of_implies (h : implies p q = true) (hp : fits p t = true) : fits q t = true := by
  induction q generalizing p t with
  | nil => rfl
  | cons s' q ih =>
    cases p with
    | nil => cases h
    | cons s p =>
      cases t with
      | nil => cases hp
      | cons c t =>
        rw [implies, Bool.and_eq_true] at h
        rw [fits, Bool.and_eq_true] at hp
        have hboth := Letters.has_land s s' c
        rw [Nat.eq_of_beq_eq_true h.1, hp.1, Bool.true_and] at hboth
        rw [fits, ← hboth, ih h.2 hp.2]
        rfl

theorem fits_eq_false_of_excludes (h : excludes p q = true) (hp : fits p t = true) :
    fits q t = false := by
  induction p generalizing q t with
  | nil => cases h
  | cons s p ih =>
    cases q with
    | nil => cases h
    | cons s' q =>
      cases t with
      | nil => cases hp
      | cons c t =>
        rw [excludes, Bool.or_eq_true] at h
        rw [fits, Bool.and_eq_true] at hp
        rw [fits, Bool.and_eq_false_iff]
        rcases h with hnone | hrest
        · have hboth := Letters.has_land s s' c
          rw [Nat.eq_of_beq_eq_true hnone, hp.1, Bool.true_and] at hboth
          exact .inl (hboth.symm.trans (Nat.zero_testBit c.toNat))
        · exact .inr (ih hrest hp.2)

theorem fits_take_drop (h : fits p t = true) (n : Nat) :
    fits (p.take n) t = true ∧ fits (p.drop n) (t.drop n) = true := by
  by_cases hn : n ≤ p.length
  · rw [← List.take_append_drop n p, fits_append, Bool.and_eq_true,
      List.length_take_of_le hn] at h
    exact h
  · have hle : p.length ≤ n := Nat.le_of_not_le hn
    rw [List.take_of_length_le hle, List.drop_of_length_le hle]
    exact ⟨h, rfl⟩

theorem length_le_of_implies (h : implies p q = true) : q.length ≤ p.length := by
  induction q generalizing p with
  | nil => exact Nat.zero_le _
  | cons s' q ih =>
    cases p with
    | nil => cases h
    | cons s p =>
      rw [implies, Bool.and_eq_true] at h
      exact Nat.succ_le_succ (ih h.2)

/-- A known text is an ending of its own. -/
theorem fits_map_only (cs : List Char) : fits (cs.map Letters.only) (cs ++ t) = true := by
  induction cs with
  | nil => rfl
  | cons c cs ih =>
    rw [List.map_cons, List.cons_append, fits, Letters.has_only, ih, decide_eq_true rfl]
    rfl

end Ending

/-! ### Changes -/

/-- What one choice of alternatives of a rule does, read from the end of the word. -/
structure Change where
  /-- What goes. -/
  dropped : Ending
  /-- What stays before it. -/
  kept : Ending
  /-- What is put in its place. -/
  ending : List Char

namespace Change

def pattern (x : Change) : Ending := x.dropped ++ x.kept

/-- The word with the other ending. -/
def apply (x : Change) (t : List Char) : List Char := x.ending ++ t.drop x.dropped.length

def make (x : Change) (t : List Char) : Option (List Char) :=
  if x.pattern.fits t then some (x.apply t) else none

/-- What a changed word ends in. -/
def push (x : Change) (known : Ending) : Ending :=
  x.ending.map Letters.only ++ known.drop x.dropped.length

/-- What a word ended in, of which this much was known, if the changed word ends as given. -/
def pull (x : Change) (known p : Ending) : Ending :=
  known.take x.dropped.length ++ p.drop x.ending.length

variable {x : Change} {known p : Ending} {t : List Char}

theorem fits_push (h : known.fits t = true) : (x.push known).fits (x.apply t) = true := by
  have hrest := (Ending.fits_take_drop h x.dropped.length).2
  rw [push, apply, Ending.fits_append, Ending.fits_map_only, List.length_map, List.drop_left, hrest]
  rfl

theorem fits_pull (hlength : x.dropped.length ≤ known.length) (h : known.fits t = true)
    (hp : p.fits (x.apply t) = true) : (x.pull known p).fits t = true := by
  have hdropped := (Ending.fits_take_drop h x.dropped.length).1
  have hrest := (Ending.fits_take_drop hp x.ending.length).2
  rw [apply, List.drop_left] at hrest
  rw [pull, Ending.fits_append, hdropped, List.length_take_of_le hlength, hrest]
  rfl

end Change

/-! ### Rules as changes -/

namespace Change

/-- One choice of alternatives of a rule. -/
def ofOne (whole : Bool) (kept dropped : List Glyph) (ending : String) : Change :=
  { dropped := (dropped.map Letters.ofGlyph).reverse
    kept := (kept.map Letters.ofGlyph).reverse ++ if whole then [Letters.only startMark] else []
    ending := ending.toList.reverse }

end Change

/-- The choices of alternatives of a rule, in the order in which they are tried. -/
def EndingRule.changes (r : EndingRule) : List Change :=
  r.kept.flatMap fun k => r.dropped.map fun d => Change.ofOne r.whole k d r.ending

theorem fitsAll_iff {gs : List Glyph} {cs : List Char} :
    fitsAll gs cs = true ↔ List.Forall₂ (fun g c => g.fits c = true) gs cs := by
  induction gs generalizing cs with
  | nil => cases cs <;> simp [fitsAll]
  | cons g gs ih => cases cs <;> simp [fitsAll, ih]

theorem fitsAll_reverse (gs : List Glyph) (cs : List Char) :
    fitsAll gs.reverse cs.reverse = fitsAll gs cs := by
  rw [Bool.eq_iff_iff, fitsAll_iff, fitsAll_iff, List.forall₂_reverse_iff]

/-- Letters are looked for among those of the word only. -/
theorem fits_map_ofGlyph (gs : List Glyph) {s : List Char} (hs : OneWord s) :
    Ending.fits (gs.map Letters.ofGlyph) (s ++ [startMark]) =
      (decide (gs.length ≤ s.length) && fitsAll gs (s.take gs.length)) := by
  induction gs generalizing s with
  | nil => simp [Ending.fits, fitsAll]
  | cons g gs ih =>
    cases s with
    | nil => simp [Ending.fits, Letters.has_ofGlyph_startMark]
    | cons c s =>
      obtain ⟨hc, hrest⟩ := List.forall_mem_cons.mp hs
      rw [List.map_cons, List.cons_append, Ending.fits, ih hrest, Letters.has_ofGlyph g hc]
      simp [fitsAll, Bool.and_left_comm]

theorem fits_fromEnd (gs : List Glyph) {s : List Char} (hs : OneWord s) :
    Ending.fits (gs.map Letters.ofGlyph).reverse (fromEnd s) =
      (decide (gs.length ≤ s.length) && fitsAll gs (s.drop (s.length - gs.length))) := by
  have hreverse : OneWord s.reverse := fun c hc => hs c (List.mem_reverse.mp hc)
  rw [← List.map_reverse, fromEnd, fits_map_ofGlyph gs.reverse hreverse, List.length_reverse,
    List.length_reverse, List.take_reverse, fitsAll_reverse]

theorem drop_fromEnd {s : List Char} {n : Nat} (hn : n ≤ s.length) :
    (fromEnd s).drop n = fromEnd (s.take (s.length - n)) := by
  rw [fromEnd, fromEnd, List.drop_append_of_le_length (by rwa [List.length_reverse]),
    List.drop_reverse]

/-- The mark stands where the word starts and nowhere else. -/
theorem fits_startMark {s : List Char} (hs : OneWord s) {n : Nat} (hn : n ≤ s.length) :
    Ending.fits [Letters.only startMark] ((fromEnd s).drop n) = (n == s.length) := by
  rw [drop_fromEnd hn, fromEnd]
  cases hfront : (s.take (s.length - n)).reverse with
  | nil =>
    rw [List.reverse_eq_nil_iff, List.take_eq_nil_iff] at hfront
    have hall : n = s.length := by
      rcases hfront with hzero | rfl
      · omega
      · exact Nat.le_zero.mp hn
    simp [Ending.fits, Letters.has_only, hall]
  | cons c rest =>
    have hmem : c ∈ (s.take (s.length - n)).reverse := hfront ▸ List.mem_cons_self
    have hc := hs c (List.mem_of_mem_take (List.mem_reverse.mp hmem))
    have hmark : startMark ≠ c := by
      rintro rfl
      exact absurd hc (by decide)
    have hpart : n ≠ s.length := by
      rintro rfl
      simp at hfront
    simp [Ending.fits, Letters.has_only, hmark, hpart]

theorem fits_ofOne (whole : Bool) (kept dropped : List Glyph) (ending : String) {s : List Char}
    (hs : OneWord s) :
    (Change.ofOne whole kept dropped ending).pattern.fits (fromEnd s) =
      (decide (kept.length + dropped.length ≤ s.length) &&
        (!whole || kept.length + dropped.length == s.length) &&
        fitsAll (kept ++ dropped) (s.drop (s.length - (kept.length + dropped.length)))) := by
  have hpattern : (Change.ofOne whole kept dropped ending).pattern =
      ((kept ++ dropped).map Letters.ofGlyph).reverse ++
        if whole then [Letters.only startMark] else [] := by
    simp [Change.pattern, Change.ofOne]
  rw [hpattern, Ending.fits_append, fits_fromEnd _ hs, List.length_reverse, List.length_map,
    List.length_append]
  cases whole with
  | false => simp [Ending.fits]
  | true =>
    by_cases hsize : kept.length + dropped.length ≤ s.length
    · rw [if_pos rfl, fits_startMark hs hsize]
      simp [hsize, Bool.and_comm]
    · simp [hsize]

theorem make_ofOne (whole : Bool) (kept dropped : List Glyph) (ending : String) {s : List Char}
    (hs : OneWord s) :
    (Change.ofOne whole kept dropped ending).make (fromEnd s) =
      (EndingRule.applyOne whole kept dropped ending s).map fromEnd := by
  rw [Change.make, fits_ofOne whole kept dropped ending hs, EndingRule.applyOne]
  split
  · next hfits =>
    simp only [Bool.and_eq_true, decide_eq_true_eq] at hfits
    have hdropped : dropped.length ≤ s.length := by omega
    have hcut : (Change.ofOne whole kept dropped ending).dropped.length = dropped.length := by
      simp [Change.ofOne]
    rw [Change.apply, hcut, drop_fromEnd hdropped, Option.map_some, fromEnd, fromEnd,
      List.reverse_append, List.append_assoc]
    rfl
  · rfl

theorem findSome?_flatMap {α β γ : Type} (f : α → List β) (g : β → Option γ) (xs : List α) :
    (xs.flatMap f).findSome? g = xs.findSome? fun x => (f x).findSome? g := by
  induction xs with
  | nil => rfl
  | cons x rest ih =>
    rw [List.flatMap_cons, List.findSome?_append, ih, List.findSome?_cons]
    cases (f x).findSome? g <;> rfl

/-- Reading from the end, the rules do what they do. -/
theorem findSome?_make (rules : List EndingRule) {s : List Char} (hs : OneWord s) :
    (rules.flatMap (·.changes)).findSome? (·.make (fromEnd s)) =
      (rules.findSome? (·.apply s)).map fromEnd := by
  simp only [findSome?_flatMap, EndingRule.changes, List.findSome?_map, Function.comp_def,
    make_ofOne _ _ _ _ hs, EndingRule.apply, List.map_findSome?]

end DomainCompiler.Naming

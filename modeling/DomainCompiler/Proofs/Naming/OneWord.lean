import DomainCompiler.Naming.Inflection
import DomainCompiler.Proofs.Naming.Pascal

/-!
# Names of one word

A name of letters and digits has no separators and no line end. So a spelling changes its first
letter at most, and its plural and its singular are found by going through one list of rules, in
which the words that have no number have a rule of their own.
-/

namespace DomainCompiler.Naming

open DomainCompiler.Text

/-- Letters and digits of ASCII and nothing else. -/
def OneWord (s : List Char) : Prop := ∀ c ∈ s, c.isAlphanum = true

/-- The letters are tried, not all characters. -/
instance (s : List Char) : Decidable (OneWord s) :=
  decidable_of_iff (s.all Char.isAlphanum = true) List.all_eq_true

/-! ### Letters and digits -/

theorem toNat_lt_of_isAlphanum {c : Char} (h : c.isAlphanum = true) : c.toNat < 0x80 := by
  have below : ∀ last : Char, c.val ≤ last.val → last.toNat < 0x80 → c.toNat < 0x80 :=
    fun _ hle hlast => Nat.lt_of_le_of_lt (UInt32.le_iff_toNat_le.mp hle) hlast
  rcases Bool.or_eq_true_iff.mp h with hletter | hdigit
  · rcases Bool.or_eq_true_iff.mp hletter with hupper | hlower
    · exact below 'Z' (of_decide_eq_true hupper).2 (by decide)
    · exact below 'z' (of_decide_eq_true (Bool.and_eq_true_iff.mp hlower).2) (by decide)
  · exact below '9' (of_decide_eq_true (Bool.and_eq_true_iff.mp hdigit).2) (by decide)

/-- What letters and digits have in common. -/
structure InWord (c : Char) : Prop where
  isSeparator : isSeparator c = false
  isWordChar : isWordChar c = true
  ne_lineEnd : c ≠ '\n'
  foldLetter : foldLetter c = c.toLower
  toUpper_toLower : c.toLower.toUpper = c.toUpper
  toLower_toUpper : c.toUpper.toLower = c.toLower
  isAlphanum_toUpper : c.toUpper.isAlphanum = true
  isAlphanum_toLower : c.toLower.isAlphanum = true
  /-- There is no third case. -/
  eq_or_eq : c = c.toLower ∨ c = c.toLower.toUpper

theorem inWord {c : Char} (hc : c.isAlphanum = true) : InWord c := by
  have hall : ∀ c : Char, c.toNat < 0x80 → c.isAlphanum = true →
      isSeparator c = false ∧ isWordChar c = true ∧ c ≠ '\n' ∧ foldLetter c = c.toLower ∧
      c.toLower.toUpper = c.toUpper ∧ c.toUpper.toLower = c.toLower ∧
      c.toUpper.isAlphanum = true ∧ c.toLower.isAlphanum = true ∧
      (c = c.toLower ∨ c = c.toLower.toUpper) :=
    forall_ascii (by decide +kernel)
  obtain ⟨hseparator, hword, hline, hfold, hupper, hlower, hinUpper, hinLower, hcase⟩ :=
    hall c (toNat_lt_of_isAlphanum hc) hc
  exact ⟨hseparator, hword, hline, hfold, hupper, hlower, hinUpper, hinLower, hcase⟩

theorem upperChar_inWord {c : Char} (hc : c.isAlphanum = true) : upperChar c = [c.toUpper] :=
  upperChar_ascii (toNat_lt_of_isAlphanum hc)

theorem lowerChar_inWord {c : Char} (hc : c.isAlphanum = true) : lowerChar c = [c.toLower] :=
  lowerChar_ascii (toNat_lt_of_isAlphanum hc)

/-! ### Spellings -/

namespace OneWord

variable {s s' : List Char}

theorem append (h : OneWord s) (h' : OneWord s') : OneWord (s ++ s') :=
  List.forall_mem_append.mpr ⟨h, h'⟩

theorem take (h : OneWord s) (n : Nat) : OneWord (s.take n) :=
  fun c hc => h c (List.mem_of_mem_take hc)

theorem drop (h : OneWord s) (n : Nat) : OneWord (s.drop n) :=
  fun c hc => h c (List.mem_of_mem_drop hc)

theorem pascalChars_eq (h : OneWord s) : pascalChars s = capitalize s := by
  rw [pascalChars, joinWords_eq_self fun c hc => (inWord (h c hc)).isSeparator]

theorem camelChars_eq (h : OneWord s) : camelChars s = uncapitalize s := by
  rw [camelChars, h.pascalChars_eq]
  cases s with
  | nil => rfl
  | cons c rest =>
    have hc := h c List.mem_cons_self
    have hlower := lowerChar_inWord (inWord hc).isAlphanum_toUpper
    rw [(inWord hc).toLower_toUpper] at hlower
    simp only [capitalize, uncapitalize, upperChar_inWord hc, lowerChar_inWord hc,
      List.singleton_append, hlower]

theorem capitalize (h : OneWord s) : OneWord (capitalize s) := by
  cases s with
  | nil => exact h
  | cons c rest =>
    obtain ⟨hc, hrest⟩ := List.forall_mem_cons.mp h
    rw [Naming.capitalize, upperChar_inWord hc]
    exact List.forall_mem_cons.mpr ⟨(inWord hc).isAlphanum_toUpper, hrest⟩

theorem uncapitalize (h : OneWord s) : OneWord (uncapitalize s) := by
  cases s with
  | nil => exact h
  | cons c rest =>
    obtain ⟨hc, hrest⟩ := List.forall_mem_cons.mp h
    rw [Naming.uncapitalize, lowerChar_inWord hc]
    exact List.forall_mem_cons.mpr ⟨(inWord hc).isAlphanum_toLower, hrest⟩

theorem lower_eq (h : OneWord s) : lower s = s.map Char.toLower :=
  lower_ascii fun c hc => toNat_lt_of_isAlphanum (h c hc)

end OneWord

/-! ### Rules for one word -/

theorem length_eq_of_fitsAll {gs : List Glyph} {cs : List Char} (h : fitsAll gs cs = true) :
    gs.length = cs.length := by
  induction gs generalizing cs with
  | nil =>
    cases cs with
    | nil => rfl
    | cons c cs => cases h
  | cons g gs ih =>
    cases cs with
    | nil => cases h
    | cons c cs =>
      rw [fitsAll, Bool.and_eq_true] at h
      rw [List.length_cons, List.length_cons, ih h.2]

theorem fitsAll_map_letter (word s : List Char) :
    fitsAll (word.map .letter) s = (word == s.map foldLetter) := by
  induction word generalizing s with
  | nil => cases s <;> rfl
  | cons a word ih =>
    cases s with
    | nil => rfl
    | cons c s =>
      rw [List.map_cons, fitsAll, ih, Glyph.fits, List.map_cons, List.cons_beq_cons,
        BEq.comm]

/-- The rule of the words that have no number. -/
def uncountableRule : EndingRule := wholeRule uncountables [""] ""

/-- Everything that is tried towards the plural of one word. -/
def pluralSteps : List EndingRule := uncountableRule :: pluralRules ++ [rule [""] [""] "s"]

/-- What is tried towards the singular of one word up to the word `oxen`. -/
def singularSteps : List EndingRule :=
  uncountableRule :: singularRules ++ [wholeRule ["ox"] ["en"] ""]

/-- What is tried after what is done to a word that starts as `oxen`. -/
def laterSingularSteps : List EndingRule := laterSingularRules ++ [rule [""] [""] ""]

/-- A rule that changes nothing, for whole words. -/
theorem applyOne_keeping (k : List Glyph) (s : List Char) :
    EndingRule.applyOne true k [] "" s = if fitsAll k s then some s else none := by
  rw [EndingRule.applyOne]
  by_cases h : fitsAll k s = true
  · have hlength := length_eq_of_fitsAll h
    simp [h, hlength]
  · rw [if_neg h]
    refine if_neg fun hfits => h ?_
    simp only [List.length_nil, Nat.add_zero, List.append_nil, Bool.and_eq_true, Bool.or_eq_true,
      Bool.not_true, Bool.false_eq_true, false_or, beq_iff_eq, decide_eq_true_eq] at hfits
    rw [hfits.1.2, Nat.sub_self, List.drop_zero] at hfits
    exact hfits.2

theorem findSome?_ite {α β : Type} (p : α → Bool) (b : β) (xs : List α) :
    (xs.findSome? fun x => if p x then some b else none) = if xs.any p then some b else none := by
  induction xs with
  | nil => rfl
  | cons x rest ih =>
    rw [List.findSome?_cons, ih, List.any_cons]
    cases p x <;> rfl

theorem apply_uncountableRule (s : List Char) :
    uncountableRule.apply s =
      if uncountables.any (fun w => fitsAll (anyCase w) s) then some s else none := by
  have hempty : anyCase "" = [] := rfl
  have happly : uncountableRule.apply s =
      uncountables.findSome? fun w => if fitsAll (anyCase w) s then some s else none := by
    simp only [uncountableRule, wholeRule, rule, EndingRule.apply, List.findSome?_map,
      List.map_cons, List.map_nil, List.findSome?_cons, List.findSome?_nil, hempty,
      Function.comp_def, applyOne_keeping]
    refine congrArg (fun f => uncountables.findSome? f) (funext fun w => ?_)
    cases fitsAll (anyCase w) s <;> rfl
  rw [happly, findSome?_ite]

section Steps

variable {s : List Char} (h : OneWord s)
include h

theorem splitLineEnd_eq : splitLineEnd s = (s, []) := by
  rw [splitLineEnd]
  split
  · next rest hreverse =>
    have hmem : '\n' ∈ s := List.mem_reverse.mp (hreverse ▸ List.mem_cons_self)
    exact absurd rfl (inWord (h _ hmem)).ne_lineEnd
  · rfl

theorem firstChange_eq (rules : List EndingRule) :
    firstChange rules s = rules.findSome? (·.apply s) := by
  rw [firstChange, splitLineEnd_eq h]
  simp

theorem fitsAll_anyCase (w : String) : fitsAll (anyCase w) s = (w.toList == lower s) := by
  rw [anyCase, fitsAll_map_letter, h.lower_eq]
  refine congrArg _ (List.map_congr_left fun c hc => ?_)
  exact (inWord (h c hc)).foldLetter

omit h in
theorem startsInWord_eq {s : List Char} (h : OneWord s) (hne : s ≠ []) : startsInWord s = true := by
  cases s with
  | nil => exact absurd rfl hne
  | cons c rest => exact (inWord (h c List.mem_cons_self)).isWordChar

/-- In one word there is nothing else beside the word that it ends in. -/
theorem endsInWord_eq (w : String) : endsInWord w.toList s = fitsAll (anyCase w) s := by
  rw [endsInWord, Bool.eq_iff_iff, anyCase]
  constructor
  · intro hends
    simp only [Bool.and_eq_true, Bool.not_eq_true', decide_eq_true_eq] at hends
    obtain ⟨⟨hlength, hfits⟩, hstart⟩ := hends
    cases hcut : s.length - w.toList.length with
    | zero => rwa [hcut, List.drop_zero] at hfits
    | succ n =>
      rw [hcut] at hstart
      have hword : OneWord (s.take (n + 1)).reverse :=
        fun c hc => (h.take (n + 1)) c (List.mem_reverse.mp hc)
      have hne : (s.take (n + 1)).reverse ≠ [] := by
        rw [ne_eq, List.reverse_eq_nil_iff, List.take_eq_nil_iff]
        rintro (hzero | rfl)
        · cases hzero
        · simp at hcut
      rw [startsInWord_eq hword hne] at hstart
      cases hstart
  · intro hfits
    have hlength := length_eq_of_fitsAll hfits
    rw [List.length_map] at hlength
    simp [hlength, hfits, startsInWord]

omit h in
theorem apply_adding (s : List Char) (ending : String) :
    (rule [""] [""] ending).apply s = some (s ++ ending.toList) := by
  have hempty : anyCase "" = [] := rfl
  simp [EndingRule.apply, EndingRule.applyOne, rule, hempty, fitsAll]

theorem pluralChars_eq (hne : s ≠ []) :
    pluralChars s = (pluralSteps.findSome? (·.apply s)).getD s := by
  have huncountable : (uncountables.any fun w => w.toList == lower s) =
      uncountables.any fun w => fitsAll (anyCase w) s := by
    simp only [fitsAll_anyCase h]
  rw [pluralChars, huncountable, List.isEmpty_eq_false_iff.mpr hne, Bool.false_or, pluralSteps,
    List.cons_append, List.findSome?_cons, apply_uncountableRule, firstChange_eq h, addS,
    splitLineEnd_eq h]
  split
  · rfl
  · rw [List.findSome?_append, List.findSome?_cons, apply_adding]
    cases pluralRules.findSome? fun r => r.apply s <;> rfl

omit h in
/-- A word that starts as `oxen` may be that word. -/
theorem apply_or_oxenChange (s : List Char) :
    ((wholeRule ["ox"] ["en"] "").apply s).or (oxenChange s) = oxenChange s := by
  have happly : (wholeRule ["ox"] ["en"] "").apply s =
      EndingRule.applyOne true (anyCase "ox") (anyCase "en") "" s := by
    simp [EndingRule.apply, wholeRule, rule]
  rw [happly, EndingRule.applyOne]
  split
  · next hfits =>
    simp only [Bool.and_eq_true, Bool.not_true, Bool.false_or, beq_iff_eq] at hfits
    obtain ⟨⟨-, hlength⟩, hfits⟩ := hfits
    have hfour : s.length = 4 := hlength.symm
    rw [hlength, Nat.sub_self, List.drop_zero] at hfits
    rw [oxenChange, List.take_of_length_le (Nat.le_of_eq hfour),
      List.drop_of_length_le (Nat.le_of_eq hfour), hfour]
    exact (if_pos hfits).symm
  · rfl

theorem singularChars_eq :
    singularChars s = ((singularSteps.findSome? (·.apply s)).or ((oxenChange s).or
      (laterSingularSteps.findSome? (·.apply s)))).getD s := by
  simp only [singularChars, endsInWord_eq h, firstChange_eq h, singularSteps, laterSingularSteps,
    List.cons_append, List.findSome?_cons, List.findSome?_append, apply_uncountableRule,
    apply_adding]
  split
  · rfl
  · cases singularRules.findSome? fun r => r.apply s with
    | some t => rfl
    | none =>
      have hword := apply_or_oxenChange s
      cases hoxen : oxenChange s with
      | some t =>
        rw [hoxen] at hword
        cases hwhole : (wholeRule ["ox"] ["en"] "").apply s with
        | some t' =>
          rw [hwhole] at hword
          exact (Option.some.inj hword).symm
        | none => rfl
      | none =>
        rw [hoxen, Option.or_none] at hword
        rw [hword]
        cases laterSingularRules.findSome? fun r => r.apply s with
        | some t => rfl
        | none => exact (List.append_nil s).symm

end Steps

end DomainCompiler.Naming

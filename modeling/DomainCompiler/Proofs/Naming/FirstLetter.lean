import DomainCompiler.Proofs.Naming.OneWord
import Mathlib.Data.Option.Basic

/-!
# The case of the first letter

Rules do not look at the case of the first letter, but for those that put another letter in its
place. Of these there is one for each case, and together they keep it. So it makes no difference
whether the number of a name of one word is changed before or after the name is put into camel case.
-/

namespace DomainCompiler.Naming

open DomainCompiler.Text

/-- The words are the same but for the case of the first letter. -/
inductive Alike : List Char → List Char → Prop
  | nil : Alike [] []
  | cons {c c' : Char} (h : c.toLower = c'.toLower) (rest : List Char) :
    Alike (c :: rest) (c' :: rest)

namespace Alike

variable {s s' : List Char}

theorem refl : (s : List Char) → Alike s s
  | [] => nil
  | _ :: rest => cons rfl rest

theorem length_eq (h : Alike s s') : s.length = s'.length := by
  cases h <;> rfl

theorem append (h : Alike s s') (t : List Char) : Alike (s ++ t) (s' ++ t) := by
  cases h with
  | nil => exact refl t
  | cons hc rest => exact cons hc (rest ++ t)

theorem take (h : Alike s s') (n : Nat) : Alike (s.take n) (s'.take n) := by
  cases n with
  | zero => exact nil
  | succ n =>
    cases h with
    | nil => exact nil
    | cons hc rest => exact cons hc (rest.take n)

theorem drop_succ (h : Alike s s') (n : Nat) : s.drop (n + 1) = s'.drop (n + 1) := by
  cases h <;> rfl

theorem capitalize_eq (h : Alike s s') (hs : OneWord s) (hs' : OneWord s') :
    capitalize s = capitalize s' := by
  cases h with
  | nil => rfl
  | @cons c c' hc rest =>
    have hin := hs c List.mem_cons_self
    have hin' := hs' c' List.mem_cons_self
    rw [capitalize, capitalize, upperChar_inWord hin, upperChar_inWord hin',
      ← (inWord hin).toUpper_toLower, hc, (inWord hin').toUpper_toLower]

theorem uncapitalize_eq (h : Alike s s') (hs : OneWord s) (hs' : OneWord s') :
    uncapitalize s = uncapitalize s' := by
  cases h with
  | nil => rfl
  | @cons c c' hc rest =>
    rw [uncapitalize, uncapitalize, lowerChar_inWord (hs c List.mem_cons_self),
      lowerChar_inWord (hs' c' List.mem_cons_self), hc]

end Alike

theorem alike_capitalize {s : List Char} (h : OneWord s) : Alike s (capitalize s) := by
  cases s with
  | nil => exact .nil
  | cons c rest =>
    have hc := h c List.mem_cons_self
    rw [capitalize, upperChar_inWord hc]
    exact .cons (inWord hc).toLower_toUpper.symm rest

theorem alike_uncapitalize {s : List Char} (h : OneWord s) : Alike s (uncapitalize s) := by
  cases s with
  | nil => exact .nil
  | cons c rest =>
    have hc := h c List.mem_cons_self
    have hlower : c.toLower.toLower = c.toLower := by
      have htwice := (inWord (inWord hc).isAlphanum_toLower).toLower_toUpper
      rwa [(inWord hc).toUpper_toLower, (inWord hc).toLower_toUpper, eq_comm] at htwice
    rw [uncapitalize, lowerChar_inWord hc]
    exact .cons hlower.symm rest

/-- The character fits in both cases or in none. -/
def Glyph.isBlind : Glyph → Bool
  | .exactly _ => false
  | _ => true

/-- The rule does not look at cases. -/
def EndingRule.Blind (r : EndingRule) : Prop :=
  ∀ gs ∈ r.kept ++ r.dropped, ∀ g ∈ gs, g.isBlind = true

instance (r : EndingRule) : Decidable r.Blind :=
  inferInstanceAs (Decidable (∀ gs ∈ r.kept ++ r.dropped, ∀ g ∈ gs, g.isBlind = true))

/-- A rule for each case of the first letter of the nouns. -/
def inBothCases (first other : Char) (source target : String) : List EndingRule :=
  [newFirst first other source target, newFirst first.toUpper other.toUpper source target]

theorem Glyph.fits_eq {g : Glyph} (hg : g.isBlind = true) {c c' : Char}
    (hc : c.isAlphanum = true) (hc' : c'.isAlphanum = true) (h : c.toLower = c'.toLower) :
    g.fits c = g.fits c' := by
  cases g with
  | letter a => simp only [fits, (inWord hc).foldLetter, (inWord hc').foldLetter, h]
  | ascii a => simp only [fits, h]
  | exactly a => cases hg
  | among cs => simp only [fits, (inWord hc).foldLetter, (inWord hc').foldLetter, h]
  | outside cs => simp only [fits, (inWord hc).foldLetter, (inWord hc').foldLetter, h]

section Related

variable {α β : Type} {R : β → β → Prop}

theorem rel_or {a b c d : Option β} (hab : Option.Rel R a b) (hcd : Option.Rel R c d) :
    Option.Rel R (a.or c) (b.or d) := by
  cases hab with
  | some hab => exact .some hab
  | none => exact hcd

theorem rel_findSome? {f g : α → Option β} {xs : List α}
    (h : ∀ x ∈ xs, Option.Rel R (f x) (g x)) :
    Option.Rel R (xs.findSome? f) (xs.findSome? g) := by
  induction xs with
  | nil => exact .none
  | cons x rest ih =>
    obtain ⟨hx, hrest⟩ := List.forall_mem_cons.mp h
    have hcons : ∀ f : α → Option β,
        (x :: rest).findSome? f = (f x).or (rest.findSome? f) := by
      intro f
      rw [List.findSome?_cons]
      cases f x <;> rfl
    rw [hcons, hcons]
    exact rel_or hx (ih hrest)

end Related

section Case

variable {s s' : List Char} (hs : OneWord s) (hs' : OneWord s') (h : Alike s s')

include h in
/-- What fits both changes them alike. -/
theorem rel_applyOne {whole : Bool} {kept dropped : List Glyph} {ending : String}
    (hfits : fitsAll (kept ++ dropped) (s.drop (s.length - (kept.length + dropped.length))) =
      fitsAll (kept ++ dropped) (s'.drop (s.length - (kept.length + dropped.length)))) :
    Option.Rel Alike (EndingRule.applyOne whole kept dropped ending s)
      (EndingRule.applyOne whole kept dropped ending s') := by
  simp only [EndingRule.applyOne, ← h.length_eq, hfits]
  split
  · exact .some ((h.take _).append _)
  · exact .none

include hs hs' h

theorem fitsAll_eq {gs : List Glyph} (hgs : ∀ g ∈ gs, g.isBlind = true) :
    fitsAll gs s = fitsAll gs s' := by
  cases h with
  | nil => rfl
  | @cons c c' hc rest =>
    cases gs with
    | nil => rfl
    | cons g gs =>
      rw [fitsAll, fitsAll, Glyph.fits_eq (hgs g List.mem_cons_self) (hs c List.mem_cons_self)
        (hs' c' List.mem_cons_self) hc]

theorem rel_apply {r : EndingRule} (hr : r.Blind) :
    Option.Rel Alike (r.apply s) (r.apply s') := by
  refine rel_findSome? fun k hk => rel_findSome? fun d hd => rel_applyOne h ?_
  cases s.length - (k.length + d.length) with
  | zero =>
    refine fitsAll_eq hs hs' h (List.forall_mem_append.mpr ⟨?_, ?_⟩)
    · exact hr k (List.mem_append_left _ hk)
    · exact hr d (List.mem_append_right _ hd)
  | succ n => rw [h.drop_succ]

end Case

/-- What the rules make of a word does not depend on the case of its first letter, which it keeps
or replaces in that case. -/
def IgnoresCase (rules : List EndingRule) : Prop :=
  ∀ s s', OneWord s → OneWord s' → Alike s s' →
    Option.Rel Alike (rules.findSome? (·.apply s)) (rules.findSome? (·.apply s'))

theorem IgnoresCase.append {rules rules' : List EndingRule} (h : IgnoresCase rules)
    (h' : IgnoresCase rules') : IgnoresCase (rules ++ rules') := by
  intro s s' hs hs' halike
  rw [List.findSome?_append, List.findSome?_append]
  exact rel_or (h s s' hs hs' halike) (h' s s' hs hs' halike)

theorem ignoresCase_of_blind {rules : List EndingRule} (h : ∀ r ∈ rules, r.Blind) :
    IgnoresCase rules :=
  fun _ _ hs hs' halike => rel_findSome? fun r hr => rel_apply hs hs' halike (h r hr)

section NewFirst

variable {first other : Char} {source target : String}

theorem apply_newFirst (s : List Char) :
    (newFirst first other source target).apply s =
      EndingRule.applyOne false [] (.exactly first :: (firstAndRest source).2.map .ascii)
        (String.ofList (other :: (firstAndRest target).2)) s := by
  simp [EndingRule.apply, newFirst]

/-- A longer word keeps its first letter, and a shorter one is not changed. -/
theorem rel_apply_newFirst {s s' : List Char} (h : Alike s s')
    (hlength : s.length ≠ (firstAndRest source).2.length + 1) :
    Option.Rel Alike ((newFirst first other source target).apply s)
      ((newFirst first other source target).apply s') := by
  rw [apply_newFirst, apply_newFirst]
  refine rel_applyOne h ?_
  set pattern := Glyph.exactly first :: (firstAndRest source).2.map .ascii with hpattern
  cases s.length - ([].length + pattern.length) with
  | zero =>
    have hno : ∀ t, t.length = s.length → fitsAll pattern t = false := by
      intro t ht
      refine Bool.eq_false_iff.mpr fun hfits => hlength ?_
      rw [← ht, ← length_eq_of_fitsAll hfits, hpattern, List.length_cons, List.length_map]
    exact (hno s rfl).trans (hno s' h.length_eq.symm).symm
  | succ n => rw [h.drop_succ]

theorem apply_newFirst_cons {rest : List Char} (h : rest.length = (firstAndRest source).2.length)
    (c : Char) :
    (newFirst first other source target).apply (c :: rest) =
      if c = first ∧ fitsAll ((firstAndRest source).2.map .ascii) rest = true then
        some (other :: (firstAndRest target).2)
      else none := by
  rw [apply_newFirst, EndingRule.applyOne]
  simp [h, fitsAll, Glyph.fits]

/-- If the whole word is replaced, the case of its first letter says which rule does so. -/
theorem findSome?_inBothCases_cons {rest : List Char}
    (h : rest.length = (firstAndRest source).2.length) (hfirst : first.toLower = first)
    (hupper : first.toUpper.toLower = first) {c : Char} (hc : c.isAlphanum = true) :
    (inBothCases first other source target).findSome? (·.apply (c :: rest)) =
      if c.toLower = first ∧ fitsAll ((firstAndRest source).2.map .ascii) rest = true then
        some ((if c = first then other else other.toUpper) :: (firstAndRest target).2)
      else none := by
  simp only [inBothCases, List.findSome?_cons, List.findSome?_nil, apply_newFirst_cons h]
  by_cases hfits : fitsAll ((firstAndRest source).2.map .ascii) rest = true
  · simp only [hfits, and_true]
    by_cases hlower : c.toLower = first
    · by_cases heq : c = first
      · simp [heq, hfirst]
      · have hother : c = first.toUpper := by
          rw [← hlower]
          exact (inWord hc).eq_or_eq.resolve_left (by rwa [hlower])
        rw [if_neg heq, if_pos hother, if_pos hlower, if_neg heq]
    · have hne : c ≠ first := by
        rintro rfl
        exact hlower hfirst
      have hne' : c ≠ first.toUpper := by
        rintro rfl
        exact hlower hupper
      rw [if_neg hne, if_neg hne', if_neg hlower]
  · simp [hfits]

theorem ignoresCase_inBothCases (hfirst : first.toLower = first)
    (hupper : first.toUpper.toLower = first) (hother : other.toUpper.toLower = other.toLower)
    (source target : String) : IgnoresCase (inBothCases first other source target) := by
  intro s s' hs hs' h
  by_cases hlength : s.length = (firstAndRest source).2.length + 1
  · cases h with
    | nil => cases hlength
    | @cons c c' hc rest =>
      have hrest : rest.length = (firstAndRest source).2.length := Nat.succ.inj hlength
      rw [findSome?_inBothCases_cons hrest hfirst hupper (hs c List.mem_cons_self),
        findSome?_inBothCases_cons hrest hfirst hupper (hs' c' List.mem_cons_self), hc]
      have hplaced : ∀ x : Char, (if x = first then other else other.toUpper).toLower =
          other.toLower := by
        intro x
        split
        · rfl
        · exact hother
      split
      · exact .some (.cons ((hplaced c).trans (hplaced c').symm) _)
      · exact .none
  · refine rel_findSome? fun r hr => ?_
    rcases List.mem_pair.mp hr with rfl | rfl
    · exact rel_apply_newFirst h hlength
    · exact rel_apply_newFirst h hlength

end NewFirst

theorem ignoresCase_pluralSteps : IgnoresCase pluralSteps := by
  have hsplit : pluralSteps = pluralSteps.take 3 ++ inBothCases 'k' 'k' "kine" "kine" ++
      inBothCases 'c' 'k' "cow" "kine" ++ pluralSteps.drop 7 := rfl
  rw [hsplit]
  refine ((IgnoresCase.append ?_ ?_).append ?_).append ?_
  · exact ignoresCase_of_blind (by decide +kernel)
  · exact ignoresCase_inBothCases (by decide) (by decide) (by decide) _ _
  · exact ignoresCase_inBothCases (by decide) (by decide) (by decide) _ _
  · exact ignoresCase_of_blind (by decide +kernel)

theorem ignoresCase_singularSteps : IgnoresCase singularSteps := by
  have hsplit : singularSteps = singularSteps.take 2 ++ inBothCases 'k' 'c' "kine" "cow" ++
      singularSteps.drop 4 := rfl
  rw [hsplit]
  refine (IgnoresCase.append ?_ ?_).append ?_
  · exact ignoresCase_of_blind (by decide +kernel)
  · exact ignoresCase_inBothCases (by decide) (by decide) (by decide) _ _
  · exact ignoresCase_of_blind (by decide +kernel)

theorem ignoresCase_laterSingularSteps : IgnoresCase laterSingularSteps :=
  ignoresCase_of_blind (by decide +kernel)

/-! ### The number of one word -/

theorem OneWord.of_apply {r : EndingRule} (hr : OneWord r.ending.toList) {s t : List Char}
    (h : OneWord s) (ht : r.apply s = some t) : OneWord t := by
  obtain ⟨k, -, hk⟩ := List.exists_of_findSome?_eq_some ht
  obtain ⟨d, -, hd⟩ := List.exists_of_findSome?_eq_some hk
  rw [EndingRule.applyOne, Option.ite_none_right_eq_some, Option.some_inj] at hd
  obtain ⟨-, rfl⟩ := hd
  exact (h.take _).append hr

theorem OneWord.of_findSome?_apply {rules : List EndingRule}
    (hrules : ∀ r ∈ rules, OneWord r.ending.toList) {s t : List Char} (h : OneWord s)
    (ht : rules.findSome? (·.apply s) = some t) : OneWord t := by
  obtain ⟨r, hr, ht⟩ := List.exists_of_findSome?_eq_some ht
  exact (hrules r hr).of_apply h ht

theorem OneWord.of_oxenChange {s t : List Char} (h : OneWord s) (ht : oxenChange s = some t) :
    OneWord t := by
  rw [oxenChange, Option.ite_none_right_eq_some, Option.some_inj] at ht
  obtain ⟨-, rfl⟩ := ht
  exact (h.take 2).append (h.drop 4)

theorem oneWord_pluralChars {s : List Char} (h : OneWord s) : OneWord (pluralChars s) := by
  by_cases hne : s = []
  · rw [hne]
    exact List.forall_mem_nil _
  · have hendings : ∀ r ∈ pluralSteps, OneWord r.ending.toList := by decide +kernel
    rw [pluralChars_eq h hne]
    cases hsteps : pluralSteps.findSome? (·.apply s) with
    | none => exact h
    | some t => exact h.of_findSome?_apply hendings hsteps

theorem oneWord_singularChars {s : List Char} (h : OneWord s) : OneWord (singularChars s) := by
  have hendings : ∀ r ∈ singularSteps, OneWord r.ending.toList := by decide +kernel
  have hlater : ∀ r ∈ laterSingularSteps, OneWord r.ending.toList := by decide +kernel
  rw [singularChars_eq h]
  cases hsteps : singularSteps.findSome? (·.apply s) with
  | some t => exact h.of_findSome?_apply hendings hsteps
  | none =>
    cases hoxen : oxenChange s with
    | some t => exact h.of_oxenChange hoxen
    | none =>
      cases hsteps : laterSingularSteps.findSome? (·.apply s) with
      | some t => exact h.of_findSome?_apply hlater hsteps
      | none => exact h

section Alike

variable {s s' : List Char} (hs : OneWord s) (hs' : OneWord s') (h : Alike s s')
include hs hs' h

theorem rel_oxenChange : Option.Rel Alike (oxenChange s) (oxenChange s') := by
  have hfits : fitsAll (anyCase "oxen") (s.take 4) = fitsAll (anyCase "oxen") (s'.take 4) :=
    fitsAll_eq (hs.take 4) (hs'.take 4) (h.take 4) (by decide +kernel)
  rw [oxenChange, oxenChange, hfits, h.drop_succ]
  split
  · exact .some ((h.take 2).append _)
  · exact .none

omit hs hs' in
theorem alike_getD {o o' : Option (List Char)} (ho : Option.Rel Alike o o') :
    Alike (o.getD s) (o'.getD s') := by
  cases ho with
  | some halike => exact halike
  | none => exact h

theorem alike_pluralChars : Alike (pluralChars s) (pluralChars s') := by
  by_cases hne : s = []
  · subst hne
    cases h
    exact .refl _
  · have hne' : s' ≠ [] := by
      rintro rfl
      cases h
      exact hne rfl
    rw [pluralChars_eq hs hne, pluralChars_eq hs' hne']
    exact alike_getD h (ignoresCase_pluralSteps s s' hs hs' h)

theorem alike_singularChars : Alike (singularChars s) (singularChars s') := by
  rw [singularChars_eq hs, singularChars_eq hs']
  refine alike_getD h (rel_or (ignoresCase_singularSteps s s' hs hs' h) (rel_or ?_ ?_))
  · exact rel_oxenChange hs hs' h
  · exact ignoresCase_laterSingularSteps s s' hs hs' h

end Alike

/-- A collection of the children is called the same whether the plural is formed of the name of the
child or of the name of its class. -/
theorem camel_plural_pascal {t : String} (h : OneWord t.toList) :
    camel (plural (pascal t)) = camel (plural t) := by
  have hpascal : OneWord (capitalize t.toList) := h.capitalize
  have halike := alike_pluralChars h hpascal (alike_capitalize h)
  have hplural := oneWord_pluralChars h
  have hplural' := oneWord_pluralChars hpascal
  simp only [camel, plural, toList_pascal, String.toList_ofList, h.pascalChars_eq,
    hplural.camelChars_eq, hplural'.camelChars_eq]
  rw [halike.uncapitalize_eq hplural hplural']

/-- Camel case makes no difference between the plural and its singular. -/
theorem pascal_singular_camel {t : String} (h : OneWord t.toList) :
    pascal (singular (camel (plural t))) = pascal (singular (plural t)) := by
  have hplural := oneWord_pluralChars h
  have hcamel := hplural.uncapitalize
  have hsingular := oneWord_singularChars hplural
  have hsingular' := oneWord_singularChars hcamel
  have halike := alike_singularChars hplural hcamel (alike_uncapitalize hplural)
  simp only [pascal, camel, singular, plural, String.toList_ofList, hplural.camelChars_eq,
    hsingular.pascalChars_eq, hsingular'.pascalChars_eq]
  rw [halike.capitalize_eq hsingular hsingular']

end DomainCompiler.Naming

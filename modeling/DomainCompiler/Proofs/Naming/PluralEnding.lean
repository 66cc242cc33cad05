import DomainCompiler.Proofs.Naming.FirstLetter
import DomainCompiler.Proofs.Naming.Snake

/-!
# The ending of a plural

A plural is its name with another ending. The endings of the tables are made of letters, small ones
but for the `K` that stands for another capital. So the plural holds no other separators than the
name, and where small letters stand behind all separators of the name, they do so in the plural.
-/

namespace DomainCompiler.Naming

open DomainCompiler.Text

/-- Whether the pattern starts with one certain capital. -/
def startsCapital : List Glyph → Bool
  | .exactly c :: _ => c.isUpper
  | _ => false

/-- Whether the ending is made of small letters, but for a capital that takes the place of one, and
is empty only where nothing is dropped. -/
def EndingRule.endsSmall (r : EndingRule) : Bool :=
  match r.ending.toList with
  | [] => r.dropped.all List.isEmpty
  | e :: rest => rest.all Char.isLower && (e.isLower || e.isUpper && r.dropped.all startsCapital)

theorem endsSmall_of_mem_pluralRules : ∀ r ∈ pluralRules, r.endsSmall = true :=
  List.all_eq_true.mp (by decide +kernel)

/-- The text with another ending of letters, that starts with a capital only in the place of one. -/
inductive NewEnding : List Char → List Char → Prop
  | keep (s : List Char) : NewEnding s s
  | other (front back : List Char) {ending : List Char}
    (hletters : ∀ c ∈ ending, c.isAlpha = true)
    (hfirst : ending.head?.any Char.isLower = true ∨ back.head?.any Char.isUpper = true) :
    NewEnding (front ++ back) (front ++ ending)

theorem isAlpha_of_isLower {c : Char} (h : c.isLower = true) : c.isAlpha = true :=
  Bool.or_eq_true_iff.mpr (.inr h)

theorem isAlpha_of_isUpper {c : Char} (h : c.isUpper = true) : c.isAlpha = true :=
  Bool.or_eq_true_iff.mpr (.inl h)

theorem fitsAll_of_fitsAll_append {k d : List Glyph} {s : List Char}
    (h : fitsAll (k ++ d) s = true) : fitsAll d (s.drop k.length) = true := by
  induction k generalizing s with
  | nil => exact h
  | cons g k ih =>
    cases s with
    | nil => cases h
    | cons c s => exact ih (Bool.and_eq_true_iff.mp h).2

theorem isUpper_of_startsCapital {d : List Glyph} {s : List Char} (h : startsCapital d = true)
    (hfits : fitsAll d s = true) : s.head?.any Char.isUpper = true := by
  cases d with
  | nil => cases h
  | cons g d =>
    cases g with
    | exactly a =>
      cases s with
      | nil => cases hfits
      | cons b back =>
        obtain rfl : b = a := eq_of_beq (Bool.and_eq_true_iff.mp hfits).1
        exact h
    | letter a => cases h
    | ascii a => cases h
    | among as => cases h
    | outside as => cases h

theorem EndingRule.newEnding_of_apply {r : EndingRule} (hr : r.endsSmall = true) {s t : List Char}
    (h : r.apply s = some t) : NewEnding s t := by
  obtain ⟨k, -, hk⟩ := List.exists_of_findSome?_eq_some h
  obtain ⟨d, hd, hone⟩ := List.exists_of_findSome?_eq_some hk
  rw [applyOne, Option.ite_none_right_eq_some, Option.some_inj] at hone
  obtain ⟨hfits, rfl⟩ := hone
  simp only [Bool.and_eq_true, decide_eq_true_eq] at hfits
  obtain ⟨⟨hlength, -⟩, hfits⟩ := hfits
  have hback : fitsAll d (s.drop (s.length - d.length)) = true := by
    have hdrop := fitsAll_of_fitsAll_append hfits
    rw [List.drop_drop] at hdrop
    have hstart : s.length - (k.length + d.length) + k.length = s.length - d.length := by omega
    rwa [hstart] at hdrop
  have hsplit := List.take_append_drop (s.length - d.length) s
  rw [endsSmall] at hr
  split at hr
  · next hending =>
    rw [hending, List.append_nil]
    have hnone : d.length = 0 := by
      rw [List.length_eq_zero_iff]
      exact List.isEmpty_iff.mp (List.all_eq_true.mp hr d hd)
    rw [hnone, Nat.sub_zero, List.take_length]
    exact .keep s
  · next e rest hending =>
    rw [hending]
    simp only [Bool.and_eq_true, Bool.or_eq_true, List.all_eq_true] at hr
    obtain ⟨hrest, hfirst⟩ := hr
    have hletters : e.isAlpha = true → ∀ c ∈ e :: rest, c.isAlpha = true := fun he =>
      List.forall_mem_cons.mpr ⟨he, fun c hc => isAlpha_of_isLower (hrest c hc)⟩
    conv => lhs; rw [← hsplit]
    rcases hfirst with he | ⟨he, hcapital⟩
    · exact .other _ _ (hletters (isAlpha_of_isLower he)) (.inl he)
    · exact .other _ _ (hletters (isAlpha_of_isUpper he))
        (.inr (isUpper_of_startsCapital (hcapital d hd) hback))

theorem splitLineEnd_of_ne {s : List Char} (h : s.getLast? ≠ some '\n') :
    splitLineEnd s = (s, []) := by
  rw [splitLineEnd]
  split
  · next rest hreverse =>
    rw [List.getLast?_eq_head?_reverse, hreverse] at h
    exact absurd rfl h
  · rfl

theorem newEnding_pluralChars {s : List Char} (h : s.getLast? ≠ some '\n') :
    NewEnding s (pluralChars s) := by
  rw [pluralChars]
  split
  · exact .keep s
  · rw [firstChange, splitLineEnd_of_ne h, addS, splitLineEnd_of_ne h]
    cases hrules : pluralRules.findSome? fun r => r.apply s with
    | some t =>
      obtain ⟨r, hr, ht⟩ := List.exists_of_findSome?_eq_some hrules
      have hnew := EndingRule.newEnding_of_apply (endsSmall_of_mem_pluralRules r hr) ht
      simpa using hnew
    | none =>
      have hs : ∀ c ∈ ['s'], c.isAlpha = true := by simp
      have hnew := NewEnding.other s [] hs (.inl rfl)
      rwa [List.append_nil] at hnew

/-! ### Letters and separators of the plural -/

theorem NewEnding.mem {s t : List Char} (h : NewEnding s t) :
    ∀ c ∈ t, c ∈ s ∨ c.isAlpha = true := by
  cases h with
  | keep => exact fun c hc => .inl hc
  | other front back hletters _ =>
    rw [List.forall_mem_append]
    exact ⟨fun c hc => .inl (List.mem_append_left back hc), fun c hc => .inr (hletters c hc)⟩

theorem splitLineEnd_append (s : List Char) : (splitLineEnd s).1 ++ (splitLineEnd s).2 = s := by
  rw [splitLineEnd]
  split
  · next rest hreverse =>
    rw [← List.reverse_inj, hreverse]
    simp
  · exact List.append_nil s

/-- The plural holds what the name holds, and letters. -/
theorem mem_pluralChars {s : List Char} : ∀ c ∈ pluralChars s, c ∈ s ∨ c.isAlpha = true := by
  have hword : ∀ c ∈ (splitLineEnd s).1, c ∈ s := fun c hc =>
    splitLineEnd_append s ▸ List.mem_append_left _ hc
  have hline : ∀ c ∈ (splitLineEnd s).2, c ∈ s := fun c hc =>
    splitLineEnd_append s ▸ List.mem_append_right _ hc
  intro c hc
  rw [pluralChars] at hc
  split at hc
  · exact .inl hc
  · rw [firstChange] at hc
    cases hrules : pluralRules.findSome? fun r => r.apply (splitLineEnd s).1 with
    | some t =>
      obtain ⟨r, hr, ht⟩ := List.exists_of_findSome?_eq_some hrules
      have hnew := EndingRule.newEnding_of_apply (endsSmall_of_mem_pluralRules r hr) ht
      rw [hrules, Option.map_some, Option.getD_some, List.mem_append] at hc
      rcases hc with hc | hc
      · exact (hnew.mem c hc).imp (hword c) id
      · exact .inl (hline c hc)
    | none =>
      have hs : 's'.isAlpha = true := by decide
      rw [hrules, Option.map_none, Option.getD_none, addS] at hc
      split at hc
      · next word hsplit =>
        rw [List.mem_append, List.mem_singleton] at hc
        rw [hsplit] at hword
        rcases hc with hc | rfl
        · exact .inl (hword c hc)
        · exact .inr hs
      · next word lineEnd hne hsplit =>
        simp only [List.mem_append, List.mem_cons, List.not_mem_nil, or_false] at hc
        rw [hsplit] at hword hline
        rcases hc with (hc | rfl | hc) | rfl
        · exact .inl (hword c hc)
        · exact .inr hs
        · exact .inl (hline c hc)
        · exact .inr hs

theorem asciiWords_pluralChars {s : List Char} (h : AsciiWords s) : AsciiWords (pluralChars s) := by
  intro c hc hseparator
  rcases mem_pluralChars c hc with hmem | halpha
  · exact h c hmem hseparator
  · exact toNat_lt_of_isAlphanum (Bool.or_eq_true_iff.mpr (.inl halpha))

/-- One word has a plural of one word. -/
theorem isSeparator_of_mem_pluralChars {s : List Char} (h : ∀ c ∈ s, isSeparator c = false) :
    ∀ c ∈ pluralChars s, isSeparator c = false := by
  intro c hc
  rcases mem_pluralChars c hc with hmem | halpha
  · exact h c hmem
  · exact isSeparator_of_isAlpha halpha

section Throughout

variable {P : Char → Option Char → Prop} {front back ending : List Char}

theorem Throughout.of_append (h : Throughout P (front ++ back)) : Throughout P back := by
  induction front with
  | nil => exact h
  | cons c front ih => exact ih h.2

/-- Another ending is as good if it is so behind each character that the ending may stand behind. -/
theorem Throughout.replace (h : Throughout P (front ++ back))
    (hnext : ∀ c, P c back.head? → P c ending.head?) (hending : Throughout P ending) :
    Throughout P (front ++ ending) := by
  induction front with
  | nil => exact hending
  | cons c front ih =>
    refine ⟨?_, ih h.2⟩
    cases front with
    | nil => exact hnext c h.1
    | cons x front => exact h.1

end Throughout

section Ending

variable {s t : List Char}

theorem NewEnding.smallBehind (h : NewEnding s t) (hs : SmallBehind isSeparator s) :
    SmallBehind isSeparator t := by
  cases h with
  | keep => exact hs
  | other front back hletters hfirst =>
    refine hs.replace (fun c hbehind hclass => ?_)
      (throughout_of_word fun c hc => isSeparator_of_isAlpha (hletters c hc))
    rcases hfirst with hlower | hupper
    · exact hlower
    · -- The capital that is replaced stands behind no separator.
      obtain ⟨b, rest, rfl, hb⟩ := exists_of_head? hupper
      exact absurd (hbehind hclass) (Char.not_isLower_of_isUpper hb)

theorem NewEnding.noneBehind (h : NewEnding s t) (hs : NoneBehind isSeparator isSeparator s) :
    NoneBehind isSeparator isSeparator t := by
  cases h with
  | keep => exact hs
  | @other front back ending hletters _ =>
    refine hs.replace (fun c _ _ => ?_)
      (throughout_of_word fun c hc => isSeparator_of_isAlpha (hletters c hc))
    cases ending with
    | nil => rfl
    | cons e rest => exact isSeparator_of_isAlpha (hletters e List.mem_cons_self)

theorem NewEnding.head (h : NewEnding s t) (hs : s.head?.any isSeparator = false) :
    t.head?.any isSeparator = false := by
  cases h with
  | keep => exact hs
  | @other front back ending hletters _ =>
    cases front with
    | cons c front => exact hs
    | nil =>
      cases ending with
      | nil => rfl
      | cons e rest => exact isSeparator_of_isAlpha (hletters e List.mem_cons_self)

end Ending

theorem getLast?_ne_of_small {s : List Char} (h : SmallBehind isSeparator s) :
    s.getLast? ≠ some '\n' := by
  intro hlast
  obtain ⟨front, rfl⟩ := List.getLast?_eq_some_iff.mp hlast
  exact absurd ((Throughout.of_append h).1 rfl) Bool.false_ne_true

/-- Words with one separator between each two of them, and none around. -/
structure SingleGaps (s : List Char) : Prop where
  head : s.head?.any isSeparator = false
  last : s.getLast?.any isSeparator = false
  alone : NoneBehind isSeparator isSeparator s

theorem SingleGaps.getLast?_ne {s : List Char} (h : SingleGaps s) : s.getLast? ≠ some '\n' := by
  intro hlast
  have hseparator := h.last
  rw [hlast] at hseparator
  cases hseparator

end DomainCompiler.Naming

import DomainCompiler.Text.Word
import Mathlib.Data.List.Infix

/-!
# The words of a text

A word is made of word characters, and so it cannot lie across any other character. A text that has
such a character in it has the words that stand before it and those that stand behind it, and a
stretch of word characters has itself as its only word. So the search for a whole word is a look
into the list of the words of the text.
-/

namespace DomainCompiler.Text

variable {word xs ys : List Char} {c : Char}

def IsWord (word : List Char) : Prop := word ≠ [] ∧ ∀ x ∈ word, isWordChar x = true

-- Said through `List.all`, since an instance found for the quantifier may go over all characters.
instance : DecidablePred IsWord := fun word =>
  decidable_of_iff (word ≠ [] ∧ word.all isWordChar = true) (and_congr_right' List.all_eq_true)

/-! ### Separators -/

/-- The word stands at the front of the text and ends there. -/
def standsFirst (word text : List Char) : Bool :=
  word.isPrefixOf text && !startsInWord (text.drop word.length)

theorem hasWordAfter_cons (inWord : Bool) :
    hasWordAfter word inWord (c :: xs) =
      (!inWord && standsFirst word (c :: xs) || hasWordAfter word (isWordChar c) xs) := by
  rw [hasWordAfter, standsFirst, Bool.and_assoc]

theorem prefix_append_cons_iff (h : c ∉ word) : word <+: xs ++ c :: ys ↔ word <+: xs := by
  refine ⟨fun hprefix => ?_, fun hprefix => hprefix.trans (List.prefix_append xs _)⟩
  have hseparator : xs ++ [c] <+: xs ++ c :: ys := ⟨ys, (List.append_cons xs c ys).symm⟩
  rcases List.prefix_or_prefix_of_prefix hprefix hseparator with hshort | hlong
  · rcases List.prefix_concat_iff.mp hshort with heq | hxs
    · exact absurd (heq ▸ List.mem_append_right xs List.mem_cons_self) h
    · exact hxs
  · exact absurd (hlong.subset (List.mem_append_right xs List.mem_cons_self)) h

theorem startsInWord_append_cons (hc : isWordChar c = false) :
    startsInWord (xs ++ c :: ys) = startsInWord xs := by
  cases xs with
  | nil => exact hc
  | cons x rest => rfl

theorem standsFirst_append_cons (hword : ∀ x ∈ word, isWordChar x = true)
    (hc : isWordChar c = false) : standsFirst word (xs ++ c :: ys) = standsFirst word xs := by
  have hmem : c ∉ word := fun h => Bool.eq_false_iff.mp hc (hword c h)
  rw [standsFirst, standsFirst, Bool.eq_iff_iff, Bool.and_eq_true, Bool.and_eq_true,
    List.isPrefixOf_iff_prefix, List.isPrefixOf_iff_prefix, prefix_append_cons_iff hmem]
  refine and_congr_right fun hprefix => ?_
  obtain ⟨rest, rfl⟩ := hprefix
  rw [List.append_assoc, List.drop_left, List.drop_left, startsInWord_append_cons hc]

/-- What stands behind a separator is read as if nothing stood before it. -/
theorem hasWordAfter_append_cons (hword : IsWord word) (hc : isWordChar c = false)
    (inWord : Bool) :
    hasWordAfter word inWord (xs ++ c :: ys) =
      (hasWordAfter word inWord xs || hasWordAfter word false ys) := by
  induction xs generalizing inWord with
  | nil =>
    have hfirst : standsFirst word ([] ++ c :: ys) = standsFirst word [] :=
      standsFirst_append_cons hword.2 hc
    have hnil : standsFirst word [] = false := by
      rw [standsFirst, Bool.and_eq_false_imp, List.isPrefixOf_iff_prefix, List.prefix_nil]
      exact fun h => absurd h hword.1
    rw [List.nil_append, hasWordAfter_cons, ← List.nil_append (c :: ys), hfirst, hnil, hc,
      Bool.and_false]
    rfl
  | cons x rest ih =>
    have hfirst : standsFirst word (x :: rest ++ c :: ys) = standsFirst word (x :: rest) :=
      standsFirst_append_cons hword.2 hc
    rw [List.cons_append, hasWordAfter_cons, ih, hasWordAfter_cons, ← List.cons_append, hfirst,
      Bool.or_assoc]

/-! ### Stretches of word characters -/

theorem standsFirst_iff_eq (h : ∀ x ∈ xs, isWordChar x = true) :
    standsFirst word xs = true ↔ xs = word := by
  rw [standsFirst, Bool.and_eq_true, List.isPrefixOf_iff_prefix, Bool.not_eq_true']
  constructor
  · rintro ⟨⟨rest, rfl⟩, hend⟩
    rw [List.drop_left] at hend
    cases rest with
    | nil => exact List.append_nil word
    | cons c rest =>
      have hc : isWordChar c = true := h c (List.mem_append_right word List.mem_cons_self)
      rw [startsInWord, hc] at hend
      cases hend
  · rintro rfl
    rw [List.drop_length]
    exact ⟨List.prefix_rfl, rfl⟩

/-- No word begins inside of a stretch of word characters. -/
theorem hasWordAfter_true_eq_false (h : ∀ x ∈ xs, isWordChar x = true) :
    hasWordAfter word true xs = false := by
  induction xs with
  | nil => rfl
  | cons x rest ih =>
    obtain ⟨hx, hrest⟩ := List.forall_mem_cons.mp h
    rw [hasWordAfter_cons, hx, ih hrest]
    rfl

theorem hasWordAfter_iff_eq (hne : word ≠ []) (h : ∀ x ∈ xs, isWordChar x = true) :
    hasWordAfter word false xs = true ↔ xs = word := by
  cases xs with
  | nil => exact ⟨nofun, fun heq => absurd heq.symm hne⟩
  | cons x rest =>
    obtain ⟨hx, hrest⟩ := List.forall_mem_cons.mp h
    rw [hasWordAfter_cons, hx, hasWordAfter_true_eq_false hrest, Bool.or_false]
    exact standsFirst_iff_eq h

/-! ### All words -/

/-- What stands between the characters of the text that are no word characters. -/
def words (text : List Char) : List (List Char) :=
  (text.splitOnP fun c => !isWordChar c).filter fun word => !word.isEmpty

theorem words_append_cons (hc : isWordChar c = false) :
    words (xs ++ c :: ys) = words xs ++ words ys := by
  have hseparator : (!isWordChar c) = true := by rw [hc, Bool.not_false]
  rw [words, List.splitOnP_append_cons xs ys hseparator, List.filter_append]
  rfl

theorem mem_words_iff_eq (hne : word ≠ []) (h : ∀ x ∈ xs, isWordChar x = true) :
    word ∈ words xs ↔ xs = word := by
  have hnone : ∀ x ∈ xs, (!isWordChar x) = false := fun x hx => by rw [h x hx, Bool.not_true]
  rw [words, List.splitOnP_eq_singleton hnone, List.mem_filter, List.mem_singleton,
    Bool.not_eq_true', List.isEmpty_eq_false_iff, and_iff_left hne, eq_comm]

theorem hasWordAfter_iff_mem_words (hword : IsWord word) (text : List Char) :
    hasWordAfter word false text = true ↔ word ∈ words text := by
  by_cases hseparator : ∃ c ∈ text, isWordChar c = false
  · -- The text is taken apart at any of its separators, and both parts are shorter.
    obtain ⟨c, hmem, hc⟩ := hseparator
    obtain ⟨xs, ys, htext⟩ := List.append_of_mem hmem
    have hlength : text.length = xs.length + (ys.length + 1) := by
      rw [htext, List.length_append, List.length_cons]
    have hbefore := hasWordAfter_iff_mem_words hword xs
    have hbehind := hasWordAfter_iff_mem_words hword ys
    rw [htext, hasWordAfter_append_cons hword hc, Bool.or_eq_true, words_append_cons hc,
      List.mem_append, hbefore, hbehind]
  · have hall : ∀ x ∈ text, isWordChar x = true := by
      intro x hx
      by_contra hno
      exact hseparator ⟨x, hx, Bool.eq_false_iff.mpr hno⟩
    rw [hasWordAfter_iff_eq hword.1 hall, mem_words_iff_eq hword.1 hall]
termination_by text.length
decreasing_by all_goals omega

/-- A word stands in a text as a whole where it is one of the words of the text. -/
theorem hasWord_iff_mem_words {word text : String} (hword : IsWord word.toList) :
    hasWord word text = true ↔ word.toList ∈ words text.toList :=
  hasWordAfter_iff_mem_words hword text.toList

end DomainCompiler.Text

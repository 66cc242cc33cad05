import DomainCompiler.Proofs.Json.Numbers
import DomainCompiler.Yaml.Plain

/-!
# Numbers and names are plain scalars

Inside brackets a plain scalar without blanks ends in front of a comma or of a closing bracket, and
the spaces and line ends before these are passed with it.
-/

namespace DomainCompiler.Json

open Yaml

/-- The characters of numbers and of the names of values. -/
def wordChars : List Char :=
  numerals ++ "truefalsn".toList

/-- A text of such characters that begins like a number or a name. -/
structure IsWord (cs : List Char) : Prop where
  chars : ∀ c ∈ cs, c ∈ wordChars
  begins : (∃ c rest, cs = c :: rest ∧ c ∈ "0123456789tfn".toList) ∨
    ∃ d rest, cs = '-' :: d :: rest ∧ d.isDigit = true

theorem IsWord.ne_nil {cs : List Char} (h : IsWord cs) : cs ≠ [] := by
  obtain ⟨c, rest, rfl, -⟩ | ⟨d, rest, rfl, -⟩ := h.begins
  · exact List.cons_ne_nil _ _
  · exact List.cons_ne_nil _ _

/-- What stands between tokens once all line ends are written alike. -/
def IsSpacing (w : List Char) : Prop :=
  ∀ c ∈ w, c = ' ' ∨ c = '\n'

def IsEnd (c : Char) : Prop :=
  c = ',' ∨ c = ']' ∨ c = '}'

section

variable {w rest : List Char} {e : Char}

theorem IsSpacing.tail {c : Char} (h : IsSpacing (c :: w)) : IsSpacing w :=
  fun c hc => h c (List.mem_cons_of_mem _ hc)

theorem startsMarker_cons_of_ne {mark c : Char} (h : c ≠ mark) :
    startsMarker mark (c :: rest) = false := by
  rw [startsMarker.eq_def]
  split
  · next heq =>
    obtain rfl := (List.cons.inj heq).1
    simp [h]
  · rfl

theorem startsSeparator_cons {c : Char} (hminus : c ≠ '-') (hpoint : c ≠ '.') :
    startsSeparator (c :: rest) = false := by
  rw [startsSeparator, startsMarker_cons_of_ne hminus, startsMarker_cons_of_ne hpoint]
  rfl

theorem startsSeparator_spacing (hw : IsSpacing w) (he : IsEnd e) :
    startsSeparator (w ++ e :: rest) = false := by
  cases w with
  | nil => obtain rfl | rfl | rfl := he <;> exact startsSeparator_cons (by decide) (by decide)
  | cons c w =>
    obtain rfl | rfl := hw c List.mem_cons_self
    · exact startsSeparator_cons (by decide) (by decide)
    · exact startsSeparator_cons (by decide) (by decide)

theorem lines_spacing (hw : IsSpacing w) (he : IsEnd e) (column : Nat) :
    ∃ more column', Plain.lines column (w ++ e :: rest) = (some (more, column'), e :: rest) := by
  induction w generalizing column with
  | nil => obtain rfl | rfl | rfl := he <;> exact ⟨[], column, rfl⟩
  | cons c w ih =>
    obtain rfl | rfl := hw c List.mem_cons_self
    · obtain ⟨more, column', hlines⟩ := ih hw.tail (column + 1)
      exact ⟨more, column', hlines⟩
    · obtain ⟨more, column', hlines⟩ := ih hw.tail 0
      refine ⟨'\n' :: more, column', ?_⟩
      show Plain.lines column ('\n' :: (w ++ e :: rest)) = _
      rw [Plain.lines]
      simp [isBreak, startsSeparator_spacing hw.tail he, hlines, keptBreak]

/-- The space behind a word is passed. -/
theorem rest_gap (hw : IsSpacing w) (he : IsEnd e) :
    (Plain.gap (w ++ e :: rest)).rest = e :: rest := by
  have hspaces : ∀ w : List Char, IsSpacing w →
      ∃ w', (w ++ e :: rest).dropWhile (· == ' ') = w' ++ e :: rest ∧
        (w' = [] ∨ ∃ v, w' = '\n' :: v ∧ IsSpacing v) := by
    intro w hw
    induction w with
    | nil => obtain rfl | rfl | rfl := he <;> exact ⟨[], rfl, .inl rfl⟩
    | cons c w ih =>
      obtain rfl | rfl := hw c List.mem_cons_self
      · exact ih hw.tail
      · exact ⟨'\n' :: w, rfl, .inr ⟨w, rfl, hw.tail⟩⟩
  obtain ⟨w', hdrop, rfl | ⟨v, rfl, hv⟩⟩ := hspaces w hw
  · have hbreak : isBreak e = false := by obtain rfl | rfl | rfl := he <;> rfl
    rw [List.nil_append] at hdrop
    rw [Plain.gap, hdrop]
    simp [hbreak]
  · obtain ⟨more, column', hlines⟩ : ∃ more column',
        Plain.lines 0 (v ++ e :: rest) = (some (more, column'), e :: rest) := lines_spacing hv he 0
    rw [List.cons_append] at hdrop
    rw [Plain.gap, hdrop]
    simp [isBreak, startsSeparator_spacing hv he, hlines]

theorem wordEnds_of_mem {c : Char} (hc : c ∈ wordChars) (behind : Char) :
    Plain.wordEnds true c behind = false := by
  have hends : wordChars.all (fun c =>
      !endsWord c && !(c == ':') && !",?[]\x7b\x7d".toList.contains c) = true := by
    decide
  have hc' := List.all_eq_true.mp hends c hc
  simp only [Bool.and_eq_true, Bool.not_eq_true'] at hc'
  rw [Plain.wordEnds, hc'.1.1, hc'.1.2, hc'.2]
  rfl

theorem word_end (hw : IsSpacing w) (he : IsEnd e) :
    Plain.word true (w ++ e :: rest) = ([], w ++ e :: rest) := by
  cases w with
  | nil =>
    obtain rfl | rfl | rfl := he
    all_goals
      show Plain.word true (_ :: rest) = _
      rw [Plain.word]
      simp [Plain.wordEnds]
  | cons c w =>
    obtain rfl | rfl := hw c List.mem_cons_self
    all_goals
      show Plain.word true (_ :: (w ++ e :: rest)) = _
      rw [Plain.word]
      simp [Plain.wordEnds, endsWord, isTabOrSpace, endsLine, isBreak]

theorem word_append {cs : List Char} (hcs : ∀ c ∈ cs, c ∈ wordChars) (hw : IsSpacing w)
    (he : IsEnd e) : Plain.word true (cs ++ (w ++ e :: rest)) = (cs, w ++ e :: rest) := by
  induction cs with
  | nil => exact word_end hw he
  | cons c cs ih =>
    rw [List.cons_append, Plain.word, wordEnds_of_mem (hcs c List.mem_cons_self),
      ih fun c hc => hcs c (List.mem_cons_of_mem _ hc)]
    rfl

/-- A word is a plain scalar, and the spaces behind it are passed. -/
theorem plain_read {cs : List Char} (hcs : IsWord cs) (hw : IsSpacing w) (he : IsEnd e)
    {indent length : Nat} (hlength : 0 < length) :
    (Plain.read true indent length (cs ++ (w ++ e :: rest))).text = cs ∧
      (Plain.read true indent length (cs ++ (w ++ e :: rest))).rest = e :: rest := by
  obtain ⟨fuel, rfl⟩ := Nat.exists_eq_succ_of_ne_zero hlength.ne'
  obtain ⟨c, cs, rfl⟩ := List.exists_cons_of_ne_nil hcs.ne_nil
  have hnext : (next (Plain.gap (w ++ e :: rest)).rest == '#') = false := by
    rw [rest_gap hw he]
    obtain rfl | rfl | rfl := he <;> rfl
  have hnothing : IsSpacing ([] : List Char) := nofun
  have hend : ∀ fuel read between multiline,
      (Plain.words true indent fuel read between multiline (e :: rest)).text = read.reverse ∧
        (Plain.words true indent fuel read between multiline (e :: rest)).rest = e :: rest := by
    intro fuel read between multiline
    cases fuel with
    | zero => exact ⟨rfl, rfl⟩
    | succ fuel =>
      have hword : Plain.word true (e :: rest) = ([], e :: rest) := word_end hnothing he
      rw [Plain.words, hword]
      exact ⟨rfl, rfl⟩
  rw [Plain.read, Plain.words, word_append hcs.chars hw he]
  dsimp only
  rw [hnext, rest_gap hw he]
  split
  · simp
  · exact ⟨(hend _ _ _ _).1.trans (by simp), (hend _ _ _ _).2⟩

end

end DomainCompiler.Json

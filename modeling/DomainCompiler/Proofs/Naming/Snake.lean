import DomainCompiler.Proofs.Naming.NormalForms
import DomainCompiler.Proofs.Naming.OneWord

/-!
# What snake case keeps of a name

In snake case a mark stands in front of each capital and in the place of each run of hyphens and
blanks, and the underscores of the name stay marks as well. So no word is lost: the Pascal case of
the name is found again. But the way in which the words were separated is not forgotten everywhere,
since a capital behind a separator is marked twice. Names that are the same in Pascal case are the
same in snake case where this case has its form, single marks with a small letter behind each.
-/

namespace DomainCompiler.Naming

open DomainCompiler.Text

/-! ### Marks -/

/-- The characters of which a run becomes one mark. -/
def isGap (c : Char) : Bool := c == '-' || isBlank c

/-- The name with its marks, in small letters, before a mark in front is dropped. -/
def marked (inGap : Bool) (s : List Char) : List Char :=
  (collapseRuns '_' isGap inGap (markCapitals '_' s)).map Char.toLower

theorem isSeparator_iff {c : Char} : isSeparator c = true ↔ isGap c = true ∨ c = '_' := by
  simp only [isSeparator, isGap, Bool.or_eq_true, beq_iff_eq]
  tauto

theorem isGap_eq_false {c : Char} (h : isSeparator c = false) : isGap c = false := by
  rw [← Bool.not_eq_true] at h ⊢
  exact fun hgap => h (isSeparator_iff.mpr (.inl hgap))

theorem ne_mark {c : Char} (h : isSeparator c = false) : c ≠ '_' := by
  rintro rfl
  cases h

theorem isSeparator_of_isAlpha {c : Char} (h : c.isAlpha = true) : isSeparator c = false :=
  (inWord (Bool.or_eq_true_iff.mpr (.inl h))).isSeparator

theorem isSeparator_of_isUpper {c : Char} (h : c.isUpper = true) : isSeparator c = false :=
  isSeparator_of_isAlpha (Bool.or_eq_true_iff.mpr (.inl h))

theorem isSeparator_of_isLower {c : Char} (h : c.isLower = true) : isSeparator c = false :=
  isSeparator_of_isAlpha (Bool.or_eq_true_iff.mpr (.inr h))

theorem isUpper_of_isSeparator {c : Char} (h : isSeparator c = true) : c.isUpper = false := by
  rw [← Bool.not_eq_true]
  intro hupper
  rw [isSeparator_of_isUpper hupper] at h
  cases h

/-- What a character can be to a name. -/
inductive Role (c : Char) : Prop
  | gap (hgap : isGap c = true)
  | mark (hmark : c = '_')
  | capital (hcapital : c.isUpper = true)
  | other (hseparator : isSeparator c = false) (hcapital : c.isUpper = false)

theorem role (c : Char) : Role c := by
  by_cases hseparator : isSeparator c = true
  · rcases isSeparator_iff.mp hseparator with hgap | hmark
    · exact .gap hgap
    · exact .mark hmark
  · rw [Bool.not_eq_true] at hseparator
    cases hcapital : c.isUpper with
    | true => exact .capital hcapital
    | false => exact .other hseparator hcapital

section Marked

variable {c : Char} {s : List Char}

theorem marked_gap (h : isGap c = true) (inGap : Bool) :
    marked inGap (c :: s) = if inGap then marked true s else '_' :: marked true s := by
  have hupper := isUpper_of_isSeparator (isSeparator_iff.mpr (.inl h))
  rw [marked, markCapitals, hupper, if_neg Bool.false_ne_true, collapseRuns, if_pos h]
  cases inGap <;> rfl

theorem marked_capital (h : c.isUpper = true) (inGap : Bool) :
    marked inGap (c :: s) = '_' :: c.toLower :: marked false s := by
  have hmark : isGap '_' = false := rfl
  have hgap := isGap_eq_false (isSeparator_of_isUpper h)
  rw [marked, markCapitals, h, if_pos rfl, collapseRuns, hmark, if_neg Bool.false_ne_true,
    collapseRuns, hgap, if_neg Bool.false_ne_true]
  rfl

theorem marked_other (hgap : isGap c = false) (hcapital : c.isUpper = false) (inGap : Bool) :
    marked inGap (c :: s) = c :: marked false s := by
  rw [marked, markCapitals, hcapital, if_neg Bool.false_ne_true, collapseRuns, hgap,
    if_neg Bool.false_ne_true, List.map_cons,
    Char.toLower_eq_of_not_isUpper (Bool.eq_false_iff.mp hcapital)]
  rfl

theorem marked_mark (inGap : Bool) : marked inGap ('_' :: s) = '_' :: marked false s :=
  marked_other rfl rfl inGap

/-- A mark in front is dropped with the name that it belongs to. -/
theorem dropMark_marked_cons (h : isSeparator c = false) :
    dropMark '_' (marked false (c :: s)) = c.toLower :: marked false s := by
  cases hcapital : c.isUpper with
  | true =>
    rw [marked_capital hcapital]
    rfl
  | false =>
    rw [marked_other (isGap_eq_false h) hcapital,
      Char.toLower_eq_of_not_isUpper (Bool.eq_false_iff.mp hcapital), dropMark,
      if_neg fun hmark => ne_mark h (eq_of_beq hmark)]

theorem marked_cons_of_separator (h : isSeparator c = true) :
    marked false (c :: s) = '_' :: marked (isGap c) s := by
  rcases isSeparator_iff.mp h with hgap | rfl
  · rw [marked_gap hgap, hgap]
    rfl
  · exact marked_mark false

end Marked

theorem mem_markCapitals {s : List Char} :
    ∀ c ∈ markCapitals '_' s, c = '_' ∨ c ∈ s := by
  induction s with
  | nil => exact List.forall_mem_nil _
  | cons c rest ih =>
    have hrest : ∀ x ∈ markCapitals '_' rest, x = '_' ∨ x ∈ c :: rest :=
      fun x hx => (ih x hx).imp id (List.mem_cons_of_mem c)
    rw [markCapitals]
    split
    · simpa using hrest
    · simpa using hrest

theorem mem_collapseRuns {s : List Char} (inGap : Bool) :
    ∀ c ∈ collapseRuns '_' isGap inGap s, c = '_' ∨ c ∈ s ∧ isGap c = false := by
  induction s generalizing inGap with
  | nil => exact List.forall_mem_nil _
  | cons c rest ih =>
    have hrest : ∀ b, ∀ x ∈ collapseRuns '_' isGap b rest,
        x = '_' ∨ x ∈ c :: rest ∧ isGap x = false :=
      fun b x hx => (ih b x hx).imp id fun h => ⟨List.mem_cons_of_mem c h.1, h.2⟩
    rw [collapseRuns]
    split
    · split
      · exact hrest true
      · exact List.forall_mem_cons.mpr ⟨.inl rfl, hrest true⟩
    · next hgap =>
      rw [Bool.not_eq_true] at hgap
      exact List.forall_mem_cons.mpr ⟨.inr ⟨List.mem_cons_self, hgap⟩, hrest false⟩

theorem toLower_eq_mark : ∀ c : Char, c.toNat < 0x80 → (c.toLower == '_') = (c == '_') :=
  forall_ascii (by decide +kernel)

theorem snakeChars_eq {s : List Char} (h : AsciiWords s) :
    snakeChars s = dropMark '_' (marked false s) := by
  have hascii : ∀ c ∈ collapseRuns '_' isGap false (markCapitals '_' s), c.toNat < 0x80 := by
    intro c hc
    rcases mem_collapseRuns false c hc with rfl | ⟨hmem, hgap⟩
    · decide
    · rcases mem_markCapitals c hmem with rfl | hmem
      · decide
      · by_cases hseparator : isSeparator c = true
        · rcases isSeparator_iff.mp hseparator with hgap' | rfl
          · rw [hgap] at hgap'
            cases hgap'
          · decide
        · exact h c hmem (Bool.eq_false_iff.mpr hseparator)
  rw [snakeChars, markedChars, marked]
  change lower (dropMark '_' (collapseRuns '_' isGap false (markCapitals '_' s))) = _
  cases hmarked : collapseRuns '_' isGap false (markCapitals '_' s) with
  | nil => rfl
  | cons c rest =>
    rw [hmarked] at hascii
    obtain ⟨hc, hrest⟩ := List.forall_mem_cons.mp hascii
    rw [dropMark, List.map_cons, dropMark, toLower_eq_mark c hc]
    split
    · exact lower_ascii hrest
    · exact lower_ascii hascii

/-! ### The words are kept -/

section Words

variable {c : Char} {s : List Char}

theorem joinWords_separator (h : isSeparator c = true) (opening : Bool) :
    joinWords opening (c :: s) = joinWords true s := by
  rw [joinWords, if_pos h]

theorem joinWords_inside (h : isSeparator c = false) :
    joinWords false (c :: s) = c :: joinWords false s := by
  rw [joinWords, h]
  rfl

theorem joinWords_opening (h : isSeparator c = false) (hascii : c.toNat < 0x80) :
    joinWords true (c :: s) = c.toUpper :: joinWords false s := by
  rw [joinWords, h, if_neg Bool.false_ne_true, if_pos rfl, upperChar_ascii hascii]
  rfl

end Words

theorem toNat_lt_of_isUpper {c : Char} (h : c.isUpper = true) : c.toNat < 0x80 :=
  toNat_lt_of_isAlphanum (Bool.or_eq_true_iff.mpr (.inl (Bool.or_eq_true_iff.mpr (.inl h))))

theorem toUpper_of_isUpper {c : Char} (h : c.isUpper = true) : c.toUpper = c :=
  Char.toUpper_eq_of_not_isLower (Char.not_isLower_of_isUpper h)

theorem isLower_toLower_of_isUpper {c : Char} (h : c.isUpper = true) :
    c.toLower.isLower = true := by
  rw [Char.isLower_toLower_eq_isAlpha]
  exact Bool.or_eq_true_iff.mpr (.inl h)

/-- The marks open the words that they stand in front of. -/
theorem joinWords_marked {s : List Char} (h : AsciiWords s) :
    (∀ inGap, joinWords true (marked inGap s) = joinWords true s) ∧
      joinWords false (marked false s) = joinWords false s := by
  induction s with
  | nil => exact ⟨fun _ => rfl, rfl⟩
  | cons c rest ih =>
    obtain ⟨hc, hrest⟩ := List.forall_mem_cons.mp h
    obtain ⟨hopening, hinside⟩ := ih hrest
    have hmark : isSeparator '_' = true := rfl
    cases role c with
    | gap hgap =>
      have hseparator := isSeparator_iff.mpr (.inl hgap)
      refine ⟨fun inGap => ?_, ?_⟩
      · rw [marked_gap hgap, joinWords_separator hseparator]
        cases inGap with
        | true => exact hopening true
        | false => exact hopening true
      · rw [marked_gap hgap, joinWords_separator hseparator]
        exact hopening true
    | mark hc =>
      rw [hc]
      refine ⟨fun inGap => ?_, ?_⟩
      · rw [marked_mark, joinWords_separator hmark, joinWords_separator hmark, hopening]
      · rw [marked_mark, joinWords_separator hmark, joinWords_separator hmark, hopening]
    | capital hcapital =>
      have hseparator := isSeparator_of_isUpper hcapital
      have hlower := isSeparator_of_isLower (isLower_toLower_of_isUpper hcapital)
      have hascii := toNat_lt_of_isUpper hcapital
      have hword : ∀ opening, joinWords opening ('_' :: c.toLower :: marked false rest) =
          c :: joinWords false rest := by
        intro opening
        rw [joinWords_separator hmark, joinWords_opening hlower (toNat_toLower_lt c hascii),
          Char.toUpper_toLower_eq_toUpper, toUpper_of_isUpper hcapital, hinside]
      refine ⟨fun inGap => ?_, ?_⟩
      · rw [marked_capital hcapital, hword, joinWords_opening hseparator hascii,
          toUpper_of_isUpper hcapital]
      · rw [marked_capital hcapital, hword, joinWords_inside hseparator]
    | other hseparator hcapital =>
      have hgap := isGap_eq_false hseparator
      refine ⟨fun inGap => ?_, ?_⟩
      · rw [marked_other hgap hcapital, joinWords_opening hseparator (hc hseparator),
          joinWords_opening hseparator (hc hseparator), hinside]
      · rw [marked_other hgap hcapital, joinWords_inside hseparator,
          joinWords_inside hseparator, hinside]

theorem joinWords_dropMark (s : List Char) :
    joinWords true (dropMark '_' s) = joinWords true s := by
  cases s with
  | nil => rfl
  | cons c rest =>
    rw [dropMark]
    split
    · next hmark =>
      rw [eq_of_beq hmark]
      rfl
    · rfl

/-- Snake case loses no word. -/
theorem pascalChars_snakeChars {s : List Char} (h : AsciiWords s) :
    pascalChars (snakeChars s) = pascalChars s := by
  rw [← joinWords_true, ← joinWords_true, snakeChars_eq h, joinWords_dropMark,
    (joinWords_marked h).1]

/-! ### The form of snake case -/

def isMark (c : Char) : Bool := c == '_'

/-- What holds of every character and what stands behind it, if anything does. -/
def Throughout (P : Char → Option Char → Prop) : List Char → Prop
  | [] => True
  | c :: rest => P c rest.head? ∧ Throughout P rest

instance decidableThroughout {P : Char → Option Char → Prop} [∀ c next, Decidable (P c next)] :
    (s : List Char) → Decidable (Throughout P s)
  | [] => .isTrue trivial
  | c :: rest =>
    have := decidableThroughout rest (P := P)
    inferInstanceAs (Decidable (P c rest.head? ∧ Throughout P rest))

theorem throughout_of_word {Q : Option Char → Prop} {s : List Char}
    (h : ∀ c ∈ s, isSeparator c = false) :
    Throughout (fun c next => isSeparator c = true → Q next) s := by
  induction s with
  | nil => exact trivial
  | cons c rest ih =>
    obtain ⟨hc, hrest⟩ := List.forall_mem_cons.mp h
    refine ⟨fun hseparator => ?_, ih hrest⟩
    rw [hc] at hseparator
    cases hseparator

/-- Behind every character of the class stands a small letter. -/
def SmallBehind (inClass : Char → Bool) (s : List Char) : Prop :=
  Throughout (fun c next => inClass c = true → next.any Char.isLower = true) s

/-- Behind no character of the class stands one of the other class. -/
def NoneBehind (inClass other : Char → Bool) (s : List Char) : Prop :=
  Throughout (fun c next => inClass c = true → next.any other = false) s

/-- There is no mark in front, and a small letter stands behind each. So no two marks stand
together, and none stands at the end. -/
structure IsSnake (s : List Char) : Prop where
  head : s.head? ≠ some '_'
  marks : SmallBehind isMark s

instance (inClass : Char → Bool) (s : List Char) : Decidable (SmallBehind inClass s) :=
  decidableThroughout s

instance (inClass other : Char → Bool) (s : List Char) : Decidable (NoneBehind inClass other s) :=
  decidableThroughout s

instance (s : List Char) : Decidable (IsSnake s) :=
  decidable_of_iff (s.head? ≠ some '_' ∧ SmallBehind isMark s)
    ⟨fun h => ⟨h.1, h.2⟩, fun h => ⟨h.head, h.marks⟩⟩

section Form

variable {c : Char} {s : List Char}

theorem SmallBehind.cons_iff {inClass : Char → Bool} (h : inClass c = false) :
    SmallBehind inClass (c :: s) ↔ SmallBehind inClass s := by
  simp [SmallBehind, Throughout, h]

theorem NoneBehind.cons_iff {inClass other : Char → Bool} (h : inClass c = false) :
    NoneBehind inClass other (c :: s) ↔ NoneBehind inClass other s := by
  simp [NoneBehind, Throughout, h]

theorem smallBehind_mark : SmallBehind isMark ('_' :: s) ↔
    s.head?.any Char.isLower = true ∧ SmallBehind isMark s := by
  simp [SmallBehind, Throughout, isMark]

theorem noneBehind_mark : NoneBehind isMark isMark ('_' :: s) ↔
    s.head?.any isMark = false ∧ NoneBehind isMark isMark s := by
  simp [NoneBehind, Throughout, isMark]

theorem isMark_eq_false (h : isSeparator c = false) : isMark c = false :=
  beq_eq_false_iff_ne.mpr (ne_mark h)

theorem toLower_of_isLower (h : c.isLower = true) : c.toLower = c :=
  Char.toLower_eq_of_not_isUpper (Char.not_isUpper_of_isLower h)

theorem isSeparator_toLower_eq_false (h : isSeparator c = false) :
    isSeparator c.toLower = false := by
  cases hcapital : c.isUpper with
  | true => exact isSeparator_of_isLower (isLower_toLower_of_isUpper hcapital)
  | false => rwa [Char.toLower_eq_of_not_isUpper (Bool.eq_false_iff.mp hcapital)]

theorem smallBehind_marked_capital (h : c.isUpper = true) (inGap : Bool) :
    SmallBehind isMark (marked inGap (c :: s)) ↔ SmallBehind isMark (marked false s) := by
  have hlower := isLower_toLower_of_isUpper h
  rw [marked_capital h, smallBehind_mark,
    SmallBehind.cons_iff (isMark_eq_false (isSeparator_of_isLower hlower))]
  exact and_iff_right hlower

theorem smallBehind_marked_other (hseparator : isSeparator c = false)
    (hcapital : c.isUpper = false) (inGap : Bool) :
    SmallBehind isMark (marked inGap (c :: s)) ↔ SmallBehind isMark (marked false s) := by
  rw [marked_other (isGap_eq_false hseparator) hcapital,
    SmallBehind.cons_iff (isMark_eq_false hseparator)]

/-- Two marks one after the other. -/
theorem not_smallBehind_marks : ¬SmallBehind isMark ('_' :: '_' :: s) := by
  intro h
  have hlower : '_'.isLower = true := (smallBehind_mark.mp h).1
  cases hlower

theorem isSnake_cons_iff (h : isSeparator c = false) :
    IsSnake (c :: s) ↔ SmallBehind isMark s := by
  refine ⟨fun hsnake => ?_, fun hmarks => ⟨fun hhead => ne_mark h (Option.some.inj hhead), ?_⟩⟩
  · exact (SmallBehind.cons_iff (isMark_eq_false h)).mp hsnake.marks
  · exact (SmallBehind.cons_iff (isMark_eq_false h)).mpr hmarks

theorem exists_of_head? {s : List Char} {p : Char → Bool} (h : s.head?.any p = true) :
    ∃ c rest, s = c :: rest ∧ p c = true := by
  cases s with
  | nil => cases h
  | cons c rest => exact ⟨c, rest, rfl, h⟩

theorem marked_small (h : c.isLower = true) (inGap : Bool) :
    marked inGap (c :: s) = c :: marked false s :=
  marked_other (isGap_eq_false (isSeparator_of_isLower h))
    (Bool.eq_false_iff.mpr (Char.not_isUpper_of_isLower h)) inGap

theorem smallBehind_marked_of_small (h : SmallBehind isSeparator s) :
    SmallBehind isMark (marked false s) := by
  induction s with
  | nil => exact trivial
  | cons c rest ih =>
    obtain ⟨hc, hrest⟩ := h
    cases hseparator : isSeparator c with
    | true =>
      obtain ⟨d, more, rfl, hlower⟩ := exists_of_head? (hc hseparator)
      have hmore := ih hrest
      rw [marked_cons_of_separator hseparator]
      rw [marked_small hlower] at hmore ⊢
      exact smallBehind_mark.mpr ⟨hlower, hmore⟩
    | false =>
      cases hcapital : c.isUpper with
      | true => exact (smallBehind_marked_capital hcapital false).mpr (ih hrest)
      | false => exact (smallBehind_marked_other hseparator hcapital false).mpr (ih hrest)

/-- Words that start with small letters give snake case its form. -/
theorem isSnake_snakeChars_of_small (hascii : AsciiWords s) (h : SmallBehind isSeparator s) :
    IsSnake (snakeChars s) := by
  rw [snakeChars_eq hascii]
  cases s with
  | nil => exact ⟨nofun, trivial⟩
  | cons c rest =>
    obtain ⟨hc, hrest⟩ := h
    have hmarks := smallBehind_marked_of_small hrest
    cases hseparator : isSeparator c with
    | true =>
      obtain ⟨d, more, rfl, hlower⟩ := exists_of_head? (hc hseparator)
      have hdrop : dropMark '_' ('_' :: marked (isGap c) (d :: more)) =
          marked (isGap c) (d :: more) := rfl
      have hd := isSeparator_of_isLower hlower
      rw [marked_small hlower, SmallBehind.cons_iff (isMark_eq_false hd)] at hmarks
      rw [marked_cons_of_separator hseparator, hdrop, marked_small hlower]
      exact (isSnake_cons_iff hd).mpr hmarks
    | false =>
      rw [dropMark_marked_cons hseparator]
      exact (isSnake_cons_iff (isSeparator_toLower_eq_false hseparator)).mpr hmarks

/-- Without separators there is nothing that could be marked twice. -/
theorem isSnake_snakeChars_of_word (h : ∀ c ∈ s, isSeparator c = false) (hascii : AsciiWords s) :
    IsSnake (snakeChars s) :=
  isSnake_snakeChars_of_small hascii (throughout_of_word h)

end Form

/-! ### Where the separators are forgotten -/

theorem marked_toUpper {c : Char} (h : c.isLower = true) (inGap : Bool) (s : List Char) :
    marked inGap (c.toUpper :: s) = '_' :: c :: marked false s := by
  have hcapital : c.toUpper.isUpper = true := by
    rw [Char.isUpper_toUpper_eq_isAlpha]
    exact Bool.or_eq_true_iff.mpr (.inr h)
  rw [marked_capital hcapital, Char.toLower_toUpper_eq_toLower, toLower_of_isLower h]

/-- Single marks are those that the capitals of the words have, when they are joined. -/
theorem marked_joinWords {s : List Char} (h : AsciiWords s) :
    (SmallBehind isMark (marked false s) → marked false (joinWords false s) = marked false s) ∧
      ∀ inGap, SmallBehind isMark ('_' :: marked inGap s) →
        marked false (joinWords true s) = '_' :: marked inGap s := by
  induction s with
  | nil =>
    refine ⟨fun _ => rfl, fun _ hsmall => ?_⟩
    exact absurd (smallBehind_mark.mp hsmall).1 Bool.false_ne_true
  | cons c rest ih =>
    obtain ⟨hc, hrest⟩ := List.forall_mem_cons.mp h
    obtain ⟨hinside, hopening⟩ := ih hrest
    cases role c with
    | gap hgap =>
      have hseparator := isSeparator_iff.mpr (.inl hgap)
      refine ⟨fun hsmall => ?_, fun inGap hsmall => ?_⟩
      · rw [marked_gap hgap] at hsmall ⊢
        rw [joinWords_separator hseparator]
        exact hopening true hsmall
      · rw [marked_gap hgap] at hsmall ⊢
        rw [joinWords_separator hseparator]
        cases inGap with
        | true => exact hopening true hsmall
        | false => exact absurd hsmall not_smallBehind_marks
    | mark hc =>
      rw [hc]
      refine ⟨fun hsmall => ?_, fun inGap hsmall => ?_⟩
      · rw [marked_mark] at hsmall ⊢
        exact hopening false hsmall
      · rw [marked_mark] at hsmall
        exact absurd hsmall not_smallBehind_marks
    | capital hcapital =>
      refine ⟨fun hsmall => ?_, fun inGap hsmall => ?_⟩
      · rw [smallBehind_marked_capital hcapital] at hsmall
        rw [joinWords_inside (isSeparator_of_isUpper hcapital), marked_capital hcapital,
          marked_capital hcapital, hinside hsmall]
      · rw [marked_capital hcapital] at hsmall
        exact absurd hsmall not_smallBehind_marks
    | other hseparator hcapital =>
      refine ⟨fun hsmall => ?_, fun inGap hsmall => ?_⟩
      · have hgap := isGap_eq_false hseparator
        rw [smallBehind_marked_other hseparator hcapital] at hsmall
        rw [joinWords_inside hseparator, marked_other hgap hcapital, marked_other hgap hcapital,
          hinside hsmall]
      · obtain ⟨hhead, hsmall⟩ := smallBehind_mark.mp hsmall
        rw [smallBehind_marked_other hseparator hcapital] at hsmall
        rw [marked_other (isGap_eq_false hseparator) hcapital] at hhead ⊢
        rw [joinWords_opening hseparator (hc hseparator), marked_toUpper hhead, hinside hsmall]

/-- The same behind a mark in front, which was dropped. -/
theorem dropMark_marked_joinWords {s : List Char} (h : AsciiWords s) (inGap : Bool)
    (hsnake : IsSnake (marked inGap s)) :
    dropMark '_' (marked false (joinWords true s)) = marked inGap s := by
  induction s with
  | nil => rfl
  | cons c rest ih =>
    obtain ⟨hc, hrest⟩ := List.forall_mem_cons.mp h
    have hhead := hsnake.head
    cases role c with
    | gap hgap =>
      rw [joinWords_separator (isSeparator_iff.mpr (.inl hgap))]
      rw [marked_gap hgap] at hsnake hhead ⊢
      cases inGap with
      | true => exact ih hrest hsnake
      | false => exact absurd rfl hhead
    | mark hc =>
      rw [hc, marked_mark] at hhead
      exact absurd rfl hhead
    | capital hcapital =>
      rw [marked_capital hcapital] at hhead
      exact absurd rfl hhead
    | other hseparator hcapital =>
      have hsmall := (smallBehind_marked_other hseparator hcapital inGap).mp hsnake.marks
      have hupper := (capital_toUpper_ascii c (hc hseparator) hseparator).isSeparator
      rw [joinWords_opening hseparator (hc hseparator), dropMark_marked_cons hupper,
        Char.toLower_toUpper_eq_toLower,
        Char.toLower_eq_of_not_isUpper (Bool.eq_false_iff.mp hcapital),
        marked_other (isGap_eq_false hseparator) hcapital, (marked_joinWords hrest).1 hsmall]

/-- The class of a name has the same snake case exactly where this has the form of snake case. -/
theorem snakeChars_pascalChars_iff {s : List Char} (h : AsciiWords s) :
    snakeChars (pascalChars s) = snakeChars s ↔ IsSnake (snakeChars s) := by
  have hascii := toNat_lt_of_mem_pascalChars h
  have hpascal : AsciiWords (pascalChars s) := fun c hc _ => hascii c hc
  constructor
  · intro heq
    rw [← heq]
    exact isSnake_snakeChars_of_word (isPascal_pascalChars s).isSeparator hpascal
  · intro hsnake
    rw [snakeChars_eq hpascal, ← joinWords_true]
    rw [snakeChars_eq h] at hsnake ⊢
    cases s with
    | nil => rfl
    | cons c rest =>
      obtain ⟨hc, hrest⟩ := List.forall_mem_cons.mp h
      cases hseparator : isSeparator c with
      | true =>
        have hdrop : dropMark '_' ('_' :: marked (isGap c) rest) = marked (isGap c) rest := rfl
        rw [marked_cons_of_separator hseparator, hdrop] at hsnake ⊢
        rw [joinWords_separator hseparator]
        exact dropMark_marked_joinWords hrest (isGap c) hsnake
      | false =>
        have hupper := (capital_toUpper_ascii c (hc hseparator) hseparator).isSeparator
        rw [dropMark_marked_cons hseparator] at hsnake ⊢
        have hsmall := (isSnake_cons_iff (isSeparator_toLower_eq_false hseparator)).mp hsnake
        rw [joinWords_opening hseparator (hc hseparator), dropMark_marked_cons hupper,
          Char.toLower_toUpper_eq_toLower, (marked_joinWords hrest).1 hsmall]

/-! ### What stands in snake case -/

theorem mem_of_mem_dropMark {s : List Char} : ∀ c ∈ dropMark '_' s, c ∈ s := by
  cases s with
  | nil => exact List.forall_mem_nil _
  | cons c rest =>
    intro x hx
    rw [dropMark] at hx
    split at hx
    · exact List.mem_cons_of_mem c hx
    · exact hx

/-- In snake case there are no capitals, no hyphens and no blanks. -/
theorem plain_snakeChars {s : List Char} (h : AsciiWords s) :
    ∀ c ∈ snakeChars s, c.isUpper = false ∧ isGap c = false := by
  rw [snakeChars_eq h]
  intro c hc
  obtain ⟨x, hx, rfl⟩ := List.mem_map.mp (mem_of_mem_dropMark c hc)
  refine ⟨Char.isUpper_toLower_eq_false x, ?_⟩
  rcases mem_collapseRuns false x hx with rfl | ⟨-, hgap⟩
  · rfl
  · cases hcapital : x.isUpper with
    | true =>
      exact isGap_eq_false (isSeparator_of_isLower (isLower_toLower_of_isUpper hcapital))
    | false => rwa [Char.toLower_eq_of_not_isUpper (Bool.eq_false_iff.mp hcapital)]

/-! ### Marks that stand together -/

/-- Where separators stand alone, two marks stand together only for a capital behind one. -/
theorem noneBehind_marked_iff {s : List Char} (h : NoneBehind isSeparator isSeparator s) :
    NoneBehind isMark isMark (marked false s) ↔ NoneBehind isSeparator Char.isUpper s := by
  induction s with
  | nil => exact Iff.rfl
  | cons c rest ih =>
    obtain ⟨hc, hrest⟩ := h
    cases hseparator : isSeparator c with
    | true =>
      rw [marked_cons_of_separator hseparator]
      cases rest with
      | nil => exact ⟨fun _ => ⟨fun _ => rfl, trivial⟩, fun _ => ⟨fun _ => rfl, trivial⟩⟩
      | cons d more =>
        have hd : isSeparator d = false := hc hseparator
        have hmore := ih hrest
        cases hcapital : d.isUpper with
        | true =>
          rw [marked_capital hcapital, noneBehind_mark]
          refine iff_of_false (fun hnone => ?_) (fun hnone => ?_)
          · have htwice : isMark '_' = false := hnone.1
            cases htwice
          · have hsmall : d.isUpper = false := hnone.1 hseparator
            rw [hcapital] at hsmall
            cases hsmall
        | false =>
          rw [marked_other (isGap_eq_false hd) hcapital] at hmore ⊢
          rw [noneBehind_mark, hmore]
          exact and_congr (iff_of_true (isMark_eq_false hd) fun _ => hcapital) Iff.rfl
    | false =>
      rw [NoneBehind.cons_iff hseparator, ← ih hrest]
      cases hcapital : c.isUpper with
      | true =>
        have hlower := isMark_eq_false
          (isSeparator_of_isLower (isLower_toLower_of_isUpper hcapital))
        rw [marked_capital hcapital, noneBehind_mark, NoneBehind.cons_iff hlower]
        exact and_iff_right hlower
      | false =>
        rw [marked_other (isGap_eq_false hseparator) hcapital,
          NoneBehind.cons_iff (isMark_eq_false hseparator)]

theorem noneBehind_snakeChars_iff {s : List Char} (hascii : AsciiWords s)
    (hhead : s.head?.any isSeparator = false) (h : NoneBehind isSeparator isSeparator s) :
    NoneBehind isMark isMark (snakeChars s) ↔ NoneBehind isSeparator Char.isUpper s := by
  rw [snakeChars_eq hascii]
  cases s with
  | nil => exact Iff.rfl
  | cons c rest =>
    have hc : isSeparator c = false := hhead
    rw [dropMark_marked_cons hc,
      NoneBehind.cons_iff (isMark_eq_false (isSeparator_toLower_eq_false hc)),
      NoneBehind.cons_iff hc, noneBehind_marked_iff h.2]

end DomainCompiler.Naming

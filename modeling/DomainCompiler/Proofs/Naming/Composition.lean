import DomainCompiler.Proofs.Naming.Endings

/-!
# One list of rules after another

A word is changed by the first rule that its ending fits, and the changed word by the first rule of
another list. What comes out can be given as one list of rules. That such a list is right is checked
row by row. What a row says of the end of a word tells the first change, this tells the end of the
changed word, and that tells the second change. Where an ending does not say whether a rule fits,
the rule may be passed by if the words that it fits have the ending of an earlier row.
-/

namespace DomainCompiler.Naming

section Choice

variable (seen : List Ending) (view : Ending → Ending) (known : Ending)

/-- A word that ends as is known and has the ending as well has an ending that was seen. An ending
of the word that is changed is viewed as one of the word that it was before. -/
def wasSeen (p : Ending) : Bool := seen.any (view (known.meet p)).implies

/-- No word that ends as is known has the ending. -/
def rulesOut (p : Ending) : Bool := known.excludes p || wasSeen seen view known p

/-- The first change, where what is known of the ending settles which one that is. -/
def choice : List Change → Option Change
  | [] => none
  | x :: xs =>
    if known.excludes x.pattern then choice xs
    else if known.implies x.pattern then some x
    else if wasSeen seen view known x.pattern then choice xs
    else none

variable {seen view known} {t u : List Char} (hseen : ∀ p ∈ seen, p.fits t = false)
  (hview : ∀ p : Ending, p.fits u = true → (view p).fits t = true) (hknown : known.fits u = true)
include hseen hview hknown

theorem fits_eq_false_of_rulesOut {p : Ending} (h : rulesOut seen view known p = true) :
    p.fits u = false := by
  rw [rulesOut, wasSeen, Bool.or_eq_true, List.any_eq_true] at h
  rcases h with hexcludes | ⟨q, hq, himplies⟩
  · exact Ending.fits_eq_false_of_excludes hexcludes hknown
  · rw [Bool.eq_false_iff]
    intro hp
    have hmeet := hview _ (Ending.fits_meet hknown hp)
    exact Bool.eq_false_iff.mp (hseen q hq) (Ending.fits_of_implies himplies hmeet)

theorem make_eq_none_of_rulesOut {x : Change} (h : rulesOut seen view known x.pattern = true) :
    x.make u = none := by
  rw [Change.make, fits_eq_false_of_rulesOut hseen hview hknown h, if_neg Bool.false_ne_true]

theorem findSome?_make_of_choice {xs : List Change} {x : Change}
    (h : choice seen view known xs = some x) :
    known.implies x.pattern = true ∧ xs.findSome? (·.make u) = some (x.apply u) := by
  induction xs with
  | nil => cases h
  | cons y ys ih =>
    -- A change that is passed by is not made.
    have hpass : rulesOut seen view known y.pattern = true →
        (y :: ys).findSome? (·.make u) = ys.findSome? (·.make u) := by
      intro hout
      rw [List.findSome?_cons, make_eq_none_of_rulesOut hseen hview hknown hout]
    rw [choice] at h
    split at h
    · next hexcludes =>
      rw [hpass (Bool.or_eq_true_iff.mpr (.inl hexcludes))]
      exact ih h
    · split at h
      · next himplies =>
        cases h
        rw [List.findSome?_cons, Change.make, if_pos (Ending.fits_of_implies himplies hknown)]
        exact ⟨himplies, rfl⟩
      · split at h
        · next hwas =>
          rw [hpass (Bool.or_eq_true_iff.mpr (.inr hwas))]
          exact ih h
        · cases h

end Choice

section Composition

variable (first skipped second : List Change)

/-- The word is changed by the first list, then by none of those that are skipped and by the second
list. -/
def Composes (t v : List Char) : Prop :=
  ∃ u, first.findSome? (·.make t) = some u ∧ skipped.findSome? (·.make u) = none ∧
    second.findSome? (·.make u) = some v

/-- The row does what the second change does after the first one. -/
def Change.follows (row x y : Change) : Bool :=
  row.dropped.length == x.dropped.length + (y.dropped.length - x.ending.length) &&
    row.ending == y.ending ++ x.ending.drop y.dropped.length

/-- Words with the ending of the row and none that was seen are changed as the row says. -/
def certifiesRow (seen : List Ending) (row : Change) : Bool :=
  seen.any row.pattern.implies ||
    match choice seen id row.pattern first with
    | none => false
    | some x =>
      let known := x.push row.pattern
      let view := x.pull row.pattern
      skipped.all (fun z => rulesOut seen view known z.pattern) &&
        match choice seen view known second with
        | none => false
        | some y => row.follows x y

def certifies : List Ending → List Change → Bool
  | _, [] => true
  | seen, row :: rows =>
    certifiesRow first skipped second seen row && certifies (row.pattern :: seen) rows

variable {first skipped second}

theorem Change.apply_of_follows {row x y : Change} (h : row.follows x y = true) (t : List Char) :
    row.apply t = y.apply (x.apply t) := by
  rw [follows, Bool.and_eq_true, beq_iff_eq, beq_iff_eq] at h
  rw [apply, apply, apply, h.1, h.2, List.drop_append, List.append_assoc, List.drop_drop]

theorem composes_of_certifiesRow {seen : List Ending} {row : Change}
    (h : certifiesRow first skipped second seen row = true) {t : List Char}
    (hseen : ∀ p ∈ seen, p.fits t = false) (hrow : row.pattern.fits t = true) :
    Composes first skipped second t (row.apply t) := by
  rw [certifiesRow, Bool.or_eq_true, List.any_eq_true] at h
  rcases h with ⟨p, hp, himplies⟩ | h
  · have hfits := Ending.fits_of_implies himplies hrow
    rw [hseen p hp] at hfits
    cases hfits
  · split at h
    · cases h
    · next x hx =>
      obtain ⟨himplies, hfirst⟩ := findSome?_make_of_choice hseen (fun _ hp => hp) hrow hx
      have hlength : x.dropped.length ≤ row.pattern.length := by
        have hle := Ending.length_le_of_implies himplies
        rw [Change.pattern, List.length_append] at hle
        exact Nat.le_of_add_right_le hle
      have hknown : (x.push row.pattern).fits (x.apply t) = true := Change.fits_push hrow
      have hview : ∀ p : Ending, p.fits (x.apply t) = true →
          (x.pull row.pattern p).fits t = true :=
        fun p hp => Change.fits_pull hlength hrow hp
      rw [Bool.and_eq_true, List.all_eq_true] at h
      obtain ⟨hskipped, hsecond⟩ := h
      split at hsecond
      · cases hsecond
      · next y hy =>
        refine ⟨x.apply t, hfirst, ?_, ?_⟩
        · refine List.findSome?_eq_none_iff.mpr fun z hz => ?_
          exact make_eq_none_of_rulesOut hseen hview hknown (hskipped z hz)
        · rw [(findSome?_make_of_choice hseen hview hknown hy).2,
            Change.apply_of_follows hsecond]

/-- A list that is certified row by row does what both lists do one after the other. -/
theorem composes_of_certifies {seen : List Ending} {rows : List Change}
    (h : certifies first skipped second seen rows = true) {t v : List Char}
    (hseen : ∀ p ∈ seen, p.fits t = false) (hv : rows.findSome? (·.make t) = some v) :
    Composes first skipped second t v := by
  induction rows generalizing seen with
  | nil => cases hv
  | cons row rows ih =>
    rw [certifies, Bool.and_eq_true] at h
    rw [List.findSome?_cons, Change.make] at hv
    cases hrow : row.pattern.fits t with
    | true =>
      rw [hrow, if_pos rfl] at hv
      cases hv
      exact composes_of_certifiesRow h.1 hseen hrow
    | false =>
      rw [hrow, if_neg Bool.false_ne_true] at hv
      exact ih h.2 (List.forall_mem_cons.mpr ⟨hrow, hseen⟩) hv

end Composition

end DomainCompiler.Naming

import DomainCompiler.Proofs.Json.Grammar
import DomainCompiler.Yaml.Scalar
import Mathlib.Data.List.TakeWhile

/-!
# Numbers as plain scalars

The text of a number has the form of a whole number or of one with a point, and writes the same
number there. What has an exponent but no point, or one without a sign, has neither form and is not
looked at.
-/

namespace DomainCompiler.Json

open Yaml

/-! ### The characters of numbers -/

def numerals : List Char :=
  "0123456789-+.eE".toList

theorem isDigit_char (d : Digit) : d.char.isDigit = true := by
  revert d
  decide

theorem char_mem_numerals (d : Digit) : d.char ∈ numerals := by
  revert d
  decide

/-- What a computation finds of all characters of numbers. -/
theorem of_mem_numerals {p : Char → Bool} {c : Char} (hc : c ∈ numerals)
    (h : numerals.all p = true) : p c = true :=
  List.all_eq_true.mp h c hc

theorem toNat_lt_of_mem_numerals {c : Char} (hc : c ∈ numerals) : c.toNat < 0x80 :=
  of_decide_eq_true (of_mem_numerals (p := fun c => c.toNat < 0x80) hc (by decide))

theorem isDigit_of_mem {ds : List Digit} {c : Char} (hc : c ∈ digitChars ds) :
    c.isDigit = true := by
  obtain ⟨d, -, rfl⟩ := List.mem_map.mp hc
  exact isDigit_char d

theorem mem_numerals_of_mem_digitChars {ds : List Digit} {c : Char} (hc : c ∈ digitChars ds) :
    c ∈ numerals := by
  obtain ⟨d, -, rfl⟩ := List.mem_map.mp hc
  exact char_mem_numerals d

namespace Exponent

variable {e : Exponent} {c : Char}

theorem mem_numerals (hc : c ∈ e.chars) : c ∈ numerals := by
  obtain ⟨capital, sign, digits⟩ := e
  rw [Exponent.chars, List.cons_append, List.mem_cons, List.mem_append] at hc
  obtain rfl | hc | hc := hc
  · cases capital
    · exact (by decide : 'e' ∈ numerals)
    · exact (by decide : 'E' ∈ numerals)
  · cases sign with
    | none => cases hc
    | some sign =>
      obtain rfl : c = sign.char := by simpa using hc
      cases sign <;> decide
  · exact mem_numerals_of_mem_digitChars hc

end Exponent

namespace Number

variable {n : Number} {c : Char}

theorem mem_numerals_of_mem_magnitude (hc : c ∈ n.magnitudeChars) : c ∈ numerals := by
  rw [magnitudeChars, List.mem_append, List.mem_append] at hc
  obtain (hc | hc) | hc := hc
  · exact mem_numerals_of_mem_digitChars hc
  · rw [fractionChars] at hc
    cases hfraction : n.fraction with
    | none =>
      rw [hfraction] at hc
      cases hc
    | some ds =>
      rw [hfraction] at hc
      obtain rfl | hc := List.mem_cons.mp hc
      · decide
      · exact mem_numerals_of_mem_digitChars hc
  · rw [exponentChars] at hc
    cases hexponent : n.exponent with
    | none =>
      rw [hexponent] at hc
      cases hc
    | some e =>
      rw [hexponent] at hc
      exact Exponent.mem_numerals hc

theorem mem_numerals (hc : c ∈ n.chars) : c ∈ numerals := by
  rw [chars, List.mem_append] at hc
  obtain hc | hc := hc
  · split at hc
    · obtain rfl := List.mem_singleton.mp hc
      decide
    · cases hc
  · exact mem_numerals_of_mem_magnitude hc

theorem magnitudeChars_eq_cons (n : Number) :
    ∃ rest, n.magnitudeChars = n.whole.digits.first.char :: rest := by
  refine ⟨digitChars n.whole.digits.more ++ n.fractionChars ++ n.exponentChars, ?_⟩
  simp [magnitudeChars, Digits.all, digitChars]

theorem splitSign_digit {s : List Char} {d : Digit} :
    Decimal.splitSign (d.char :: s) = (false, d.char :: s) := by
  have hplus : d.char ≠ '+' := by
    revert d
    decide
  have hminus : d.char ≠ '-' := by
    revert d
    decide
  rw [Decimal.splitSign.eq_def]
  split
  · next heq => exact absurd (List.cons.inj heq).1 hminus
  · next heq => exact absurd (List.cons.inj heq).1 hplus
  · rfl

theorem splitSign_magnitude (n : Number) :
    Decimal.splitSign n.magnitudeChars = (false, n.magnitudeChars) := by
  obtain ⟨rest, hrest⟩ := n.magnitudeChars_eq_cons
  rw [hrest, splitSign_digit]

theorem splitSign_chars (n : Number) :
    Decimal.splitSign n.chars = (n.negative, n.magnitudeChars) := by
  rw [chars]
  cases n.negative with
  | true => rfl
  | false => exact n.splitSign_magnitude

theorem chars_eq_cons (n : Number) :
    ∃ c rest, n.chars = c :: rest ∧ (c = '-' ∨ c.isDigit = true) := by
  obtain ⟨rest, hrest⟩ := n.magnitudeChars_eq_cons
  rw [chars]
  cases n.negative with
  | true => exact ⟨'-', n.magnitudeChars, rfl, .inl rfl⟩
  | false => exact ⟨_, rest, hrest, .inr (isDigit_char _)⟩

end Number

/-! ### Reading digits -/

theorem digitValue?_char (d : Digit) : Decimal.digitValue? d.char = some d.val := by
  revert d
  decide

theorem readDigits_digitChars (ds : List Digit) (acc : Nat) :
    Decimal.readDigits 10 acc (digitChars ds) =
      some (ds.foldl (fun n d => n * 10 + d.val) acc) := by
  induction ds generalizing acc with
  | nil => rfl
  | cons d ds ih =>
    show Decimal.readDigits 10 acc (d.char :: digitChars ds) = _
    rw [Decimal.readDigits, digitValue?_char]
    exact (if_pos d.isLt).trans (ih _)

theorem readNat?_digitChars {ds : List Digit} (hds : ds ≠ []) :
    Decimal.readNat? 10 (digitChars ds) = some (digitsValue ds) := by
  have hne : digitChars ds ≠ [] := fun h => hds (List.map_eq_nil_iff.mp h)
  rw [Decimal.readNat?, if_neg (by simpa using hne), readDigits_digitChars]
  rfl

theorem all_ne_nil (ds : Digits) : ds.all ≠ [] := List.cons_ne_nil _ _

theorem spanDigits_append {ds : List Digit} {s : List Char}
    (hs : ∀ c, s.head? = some c → c.isDigit = false) :
    Decimal.spanDigits (digitChars ds ++ s) = (digitChars ds, s) := by
  have hdigits : ∀ c ∈ digitChars ds, c.isDigit = true := fun c hc => isDigit_of_mem hc
  rw [Decimal.spanDigits, List.takeWhile_append_of_pos hdigits,
    List.dropWhile_append_of_pos hdigits]
  cases s with
  | nil => simp
  | cons c s =>
    have hc := hs c rfl
    simp [hc]

/-! ### Blanks and signs around numbers -/

theorem plainNumber_eq_self {s : List Char} (h : ∀ c ∈ s, c ∈ numerals) :
    Text.plainNumber s = s := by
  have hmap : s.map Text.plainNumeral = s := by
    refine (List.map_congr_left fun c hc => ?_).trans (List.map_id s)
    exact Text.plainNumeral_of_ascii (toNat_lt_of_mem_numerals (h c hc))
  have hblank : ∀ t : List Char, (∀ c ∈ t, c ∈ numerals) → t.dropWhile Text.isNumeralBlank = t := by
    intro t ht
    cases t with
    | nil => rfl
    | cons c t =>
      have hc : (!Text.isNumeralBlank c) = true :=
        of_mem_numerals (p := fun c => !Text.isNumeralBlank c) (ht c List.mem_cons_self) (by decide)
      rw [List.dropWhile_cons, if_neg (by simpa using hc)]
  rw [Text.plainNumber, hmap, hblank s h, hblank s.reverse fun c hc => h c (List.mem_reverse.mp hc),
    List.reverse_reverse]

theorem withoutUnderscores_eq_self {s : List Char} (h : ∀ c ∈ s, c ∈ numerals) :
    Scalar.withoutUnderscores s = s := by
  apply List.filter_eq_self.mpr
  intro c hc
  exact of_mem_numerals (p := (· != '_')) (h c hc) (by decide)

theorem contains_colon_eq_false {s : List Char} (h : ∀ c ∈ s, c ∈ numerals) :
    s.contains ':' = false := by
  rw [List.contains_eq_mem, decide_eq_false_iff_not]
  exact fun hc => absurd (h ':' hc) (by decide)

/-! ### The form of the text -/

theorem withoutFinalBreak_eq_self {s : List Char} (h : ∀ c ∈ s, c ∈ numerals) :
    Tag.withoutFinalBreak s = s := by
  rw [Tag.withoutFinalBreak, if_neg]
  intro hlast
  have hmem : '\n' ∈ s := List.mem_of_getLast? (by simpa using hlast)
  exact absurd (h _ hmem) (by decide)

/-- No number begins like one of the words for truth values, or with a point. -/
theorem not_word_of_cons {c : Char} {rest : List Char} (hc : c = '-' ∨ c.isDigit = true) :
    Tag.boolWords.contains (String.ofList (c :: rest)) = false := by
  have hfirst : ∀ w ∈ Tag.boolWords,
      w.toList.head?.all (fun c => c != '-' && !c.isDigit) = true := by
    decide
  rw [List.contains_eq_mem, decide_eq_false_iff_not]
  intro hmem
  have hc' := hfirst _ hmem
  obtain rfl | hc := hc
  · simp at hc'
  · simp [hc] at hc'

namespace Number

variable {n : Number}

theorem isDigitRun_digitChars (ds : Digits) : Tag.isDigitRun (digitChars ds.all) = true := by
  show (ds.first.char.isDigit && (digitChars ds.more).all fun d => d.isDigit || d == '_') = true
  rw [isDigit_char, Bool.true_and, List.all_eq_true]
  intro c hc
  rw [isDigit_of_mem hc]
  rfl

/-- Digits without a leading zero have the form of a whole number. -/
theorem isWhole_digitChars (w : Whole) : Tag.isWhole (digitChars w.digits.all) = true := by
  obtain ⟨⟨first, more⟩, proper⟩ := w
  by_cases hzero : first = 0
  · obtain rfl : more = [] := proper hzero
    subst hzero
    rfl
  · have hchar : first.char ≠ '0' := (by decide : ∀ d : Digit, d ≠ 0 → d.char ≠ '0') first hzero
    have hrun : Tag.isDigitRun (first.char :: digitChars more) = true :=
      isDigitRun_digitChars ⟨first, more⟩
    show Tag.isWhole (first.char :: digitChars more) = true
    rw [Tag.isWhole.eq_def]
    split
    · next heq => exact absurd (List.cons.inj heq).1 hchar
    · next heq => exact absurd (List.cons.inj heq).1 hchar
    · next heq => exact absurd (List.cons.inj heq).1 hchar
    · rw [hrun, Bool.true_or]

theorem isExponent_chars {e : Exponent} (he : e.sign.isSome = true) :
    Tag.isExponent e.chars = true := by
  obtain ⟨capital, sign, digits⟩ := e
  cases sign with
  | none => cases he
  | some sign =>
    have hdigits : (digitChars digits.all).all Char.isDigit = true :=
      List.all_eq_true.mpr fun c hc => isDigit_of_mem hc
    have hne : (digitChars digits.all).isEmpty = false := rfl
    show Tag.isExponent
      ((if capital then 'E' else 'e') :: sign.char :: digitChars digits.all) = true
    rw [Tag.isExponent, hdigits, hne]
    cases capital <;> cases sign <;> rfl

theorem head?_exponentChars {c : Char} (hc : n.exponentChars.head? = some c) :
    c = 'e' ∨ c = 'E' := by
  rw [exponentChars] at hc
  cases hexponent : n.exponent with
  | none =>
    rw [hexponent] at hc
    cases hc
  | some e =>
    rw [hexponent] at hc
    obtain rfl : (if e.capital then 'E' else 'e') = c := Option.some.inj hc
    cases e.capital
    · exact .inl rfl
    · exact .inr rfl

theorem isFraction_chars (ds : Digits) (hexponent : ∀ e ∈ n.exponent, e.sign.isSome = true) :
    Tag.isFraction (digitChars ds.all ++ n.exponentChars) = true := by
  have hdigits : ∀ c ∈ digitChars ds.all, (c.isDigit || c == '_') = true := by
    intro c hc
    rw [isDigit_of_mem hc]
    rfl
  have hdrop : n.exponentChars.dropWhile (fun c => c.isDigit || c == '_') = n.exponentChars := by
    cases hchars : n.exponentChars with
    | nil => rfl
    | cons c rest =>
      obtain rfl | rfl := head?_exponentChars (by rw [hchars]; rfl) <;> rfl
  rw [Tag.isFraction, List.dropWhile_append_of_pos hdigits, hdrop, exponentChars]
  cases hexp : n.exponent with
  | none => rfl
  | some e => exact isExponent_chars (hexponent e hexp)

theorem ne_point_of_mem {ds : List Digit} {c : Char} (hc : c ∈ digitChars ds) :
    (c != '.') = true := by
  have hdigit := isDigit_of_mem hc
  rw [bne_iff_ne]
  intro heq
  rw [heq] at hdigit
  cases hdigit

theorem chars_ne_point (n : Number) : ∀ c rest, n.chars ≠ '.' :: c :: rest := by
  intro c rest heq
  obtain ⟨c', rest', hchars, hc⟩ := n.chars_eq_cons
  obtain rfl : c' = '.' := (List.cons.inj (hchars.symm.trans heq)).1
  obtain hc | hc := hc <;> cases hc

/-- A number with a fraction has the form of one, if its exponent has a sign. -/
theorem isFloat_chars {ds : Digits} (hfraction : n.fraction = some ds)
    (hexponent : ∀ e ∈ n.exponent, e.sign.isSome = true) : Tag.isFloat n.chars = true := by
  have hmagnitude : n.magnitudeChars =
      digitChars n.whole.digits.all ++ '.' :: (digitChars ds.all ++ n.exponentChars) := by
    simp [magnitudeChars, fractionChars, hfraction]
  have hdecimal : Tag.isDecimal n.magnitudeChars = true := by
    rw [Tag.isDecimal, hmagnitude, List.dropWhile_append_of_pos fun c hc => ne_point_of_mem hc,
      List.takeWhile_append_of_pos fun c hc => ne_point_of_mem hc]
    simp [isDigitRun_digitChars, isFraction_chars ds hexponent]
  rw [Tag.isFloat, splitSign_chars]
  · simp [hdecimal]
  · exact n.chars_ne_point

theorem magnitudeChars_of_isWhole (hwhole : n.isWhole = true) :
    n.magnitudeChars = digitChars n.whole.digits.all := by
  rw [isWhole, Bool.and_eq_true, Option.isNone_iff_eq_none, Option.isNone_iff_eq_none] at hwhole
  simp [magnitudeChars, fractionChars, exponentChars, hwhole]

theorem not_isInfinity_of_digit (d : Digit) (rest : List Char) :
    Tag.isInfinity (d.char :: rest) = false := by
  have hpoint : d.char ≠ '.' := by
    revert d
    decide
  rw [Tag.isInfinity, List.contains_eq_mem, decide_eq_false_iff_not]
  intro hmem
  have hfirst : ∀ w ∈ [".inf", ".Inf", ".INF"], w.toList.head? = some '.' := by decide
  exact hpoint (by simpa using hfirst _ hmem)

theorem not_isFloat_chars (hwhole : n.isWhole = true) : Tag.isFloat n.chars = false := by
  have hdecimal : Tag.isDecimal n.magnitudeChars = false := by
    have hdrop : (digitChars n.whole.digits.all).dropWhile (· != '.') = [] := by
      rw [List.dropWhile_eq_nil_iff]
      exact fun c hc => ne_point_of_mem hc
    rw [Tag.isDecimal, magnitudeChars_of_isWhole hwhole, hdrop]
  have hinfinity : Tag.isInfinity n.magnitudeChars = false := by
    obtain ⟨rest, hrest⟩ := n.magnitudeChars_eq_cons
    rw [hrest, not_isInfinity_of_digit]
  rw [Tag.isFloat, splitSign_chars]
  · simp [hdecimal, hinfinity]
  · exact n.chars_ne_point

/-- The tag of a number. -/
theorem ofPlain_chars (hn : n.isShared = true) :
    Tag.ofPlain (String.ofList n.chars) = if n.isWhole then .int else .float := by
  have hnumerals : ∀ c ∈ n.chars, c ∈ numerals := fun c hc => mem_numerals hc
  have hword : Tag.boolWords.contains (String.ofList n.chars) = false := by
    obtain ⟨c, rest, hchars, hc⟩ := n.chars_eq_cons
    rw [hchars]
    exact not_word_of_cons hc
  rw [Tag.ofPlain, String.toList_ofList, withoutFinalBreak_eq_self hnumerals]
  simp only [hword, Bool.false_eq_true, if_false]
  by_cases hwhole : n.isWhole = true
  · rw [not_isFloat_chars hwhole, splitSign_chars, magnitudeChars_of_isWhole hwhole,
      isWhole_digitChars]
    simp [hwhole]
  · have hshared := hn
    rw [isShared] at hshared
    cases hfraction : n.fraction with
    | none =>
      cases hexponent : n.exponent with
      | none => simp [isWhole, hfraction, hexponent] at hwhole
      | some e => simp [hfraction, hexponent] at hshared
    | some ds =>
      have hsigned : ∀ e ∈ n.exponent, e.sign.isSome = true := by
        intro e he
        rw [hfraction, Option.mem_def.mp he] at hshared
        exact hshared
      rw [isFloat_chars hfraction hsigned]
      simp [hwhole]

/-! ### The value of the text -/

theorem withoutMark_ten (s : List Char) : Scalar.withoutMark 10 s = s := by
  rw [Scalar.withoutMark.eq_def]
  split
  · exact if_neg (by simp [Scalar.baseMark])
  · rfl

theorem whole_digitChars {ds : Digits} (hlength : ds.all.length ≤ Decimal.digitLimit) :
    Scalar.whole 10 (digitChars ds.all) = .ok (digitsValue ds.all : Int) := by
  have hnumerals : ∀ c ∈ digitChars ds.all, c ∈ numerals :=
    fun c hc => mem_numerals_of_mem_digitChars hc
  have hsign : Decimal.splitSign (digitChars ds.all) = (false, digitChars ds.all) := splitSign_digit
  have hshort : Scalar.isTooLong 10 (digitChars ds.all) = false := by
    have hlength' : ¬Decimal.digitLimit < (digitChars ds.all).length := by
      rw [digitChars, List.length_map]
      omega
    simp [Scalar.isTooLong, hlength']
  rw [Scalar.whole, plainNumber_eq_self hnumerals, hsign]
  simp [withoutMark_ten, hshort, readNat?_digitChars (all_ne_nil ds)]

theorem unsignedWhole_digitChars (w : Whole)
    (hlength : w.digits.all.length ≤ Decimal.digitLimit) :
    Scalar.unsignedWhole (digitChars w.digits.all) = .ok (digitsValue w.digits.all : Int) := by
  have hwhole := whole_digitChars hlength
  have hcolon : (digitChars w.digits.all).contains ':' = false :=
    contains_colon_eq_false fun c hc => mem_numerals_of_mem_digitChars hc
  obtain ⟨⟨first, more⟩, proper⟩ := w
  by_cases hzero : first = 0
  · obtain rfl : more = [] := proper hzero
    subst hzero
    rfl
  · have hchar : first.char ≠ '0' := (by decide : ∀ d : Digit, d ≠ 0 → d.char ≠ '0') first hzero
    rw [Scalar.unsignedWhole.eq_def]
    split
    · next heq => cases heq
    · next heq => exact absurd (List.cons.inj heq).1 hchar
    · next heq => exact absurd (List.cons.inj heq).1 hchar
    · next heq => exact absurd (List.cons.inj heq).1 hchar
    · next heq => exact absurd (List.cons.inj heq).1 hchar
    · rw [hcolon, if_neg Bool.false_ne_true]
      exact hwhole

/-- A number without a fraction and an exponent is read as a whole number. -/
theorem int_chars (hwhole : n.isWhole = true) (hn : n.isShared = true) :
    Scalar.int (String.ofList n.chars) = .ok n.value := by
  have hlength : n.whole.digits.all.length ≤ Decimal.digitLimit := by
    have hnone := hwhole
    rw [isWhole, Bool.and_eq_true, Option.isNone_iff_eq_none, Option.isNone_iff_eq_none] at hnone
    rw [isShared, hnone.1, hnone.2] at hn
    exact of_decide_eq_true hn
  have hnumerals : ∀ c ∈ n.chars, c ∈ numerals := fun c hc => mem_numerals hc
  have hread : Scalar.unsignedWhole n.magnitudeChars =
      .ok (digitsValue n.whole.digits.all : Int) := by
    rw [magnitudeChars_of_isWhole hwhole]
    exact unsignedWhole_digitChars n.whole hlength
  rw [Scalar.int, String.toList_ofList, withoutUnderscores_eq_self hnumerals]
  split
  · next hnil =>
    obtain ⟨c, rest, hchars, -⟩ := n.chars_eq_cons
    rw [hchars] at hnil
    cases hnil
  · rw [splitSign_chars]
    simp [hread, value, hwhole, bind, Except.bind, pure, Except.pure]

/-! ### Numbers of double precision -/

/-- The number with a small letter for its exponent. -/
def lowered (n : Number) : Number :=
  { n with exponent := n.exponent.map fun e => { e with capital := false } }

theorem value_lowered (n : Number) : n.lowered.value = n.value := by
  obtain ⟨negative, whole, fraction, exponent⟩ := n
  cases exponent <;> rfl

theorem isWhole_lowered (n : Number) : n.lowered.isWhole = n.isWhole := by
  obtain ⟨negative, whole, fraction, exponent⟩ := n
  cases exponent <;> rfl

theorem map_toLower_digitChars (ds : List Digit) :
    (digitChars ds).map Char.toLower = digitChars ds := by
  rw [digitChars, List.map_map]
  exact List.map_congr_left fun d _ => (by decide : ∀ d : Digit, d.char.toLower = d.char) d

theorem lower_chars (n : Number) : Text.lower n.chars = n.lowered.chars := by
  have hdigits := map_toLower_digitChars
  rw [Text.lower_ascii fun c hc => toNat_lt_of_mem_numerals (mem_numerals hc)]
  obtain ⟨negative, whole, fraction, exponent⟩ := n
  have hfraction : (fraction.elim [] fun ds => '.' :: digitChars ds.all).map Char.toLower =
      fraction.elim [] fun ds => '.' :: digitChars ds.all := by
    cases fraction with
    | none => rfl
    | some ds => exact congrArg ('.' :: ·) (hdigits ds.all)
  have hexponent : (exponent.elim [] Exponent.chars).map Char.toLower =
      (exponent.map fun e => { e with capital := false }).elim [] Exponent.chars := by
    cases exponent with
    | none => rfl
    | some e =>
      obtain ⟨capital, sign, digits⟩ := e
      cases capital <;> cases sign with
      | none => exact congrArg ('e' :: ·) (hdigits digits.all)
      | some sign => cases sign <;> simp [Exponent.chars, hdigits] <;> rfl
  cases negative <;>
    simp [chars, magnitudeChars, fractionChars, exponentChars, lowered, hfraction, hexponent,
      hdigits]

theorem readExponent_chars (e : Exponent) : Decimal.readExponent e.chars = some e.value := by
  obtain ⟨capital, sign, digits⟩ := e
  have hletter : ((if capital then 'E' else 'e') == 'e' || (if capital then 'E' else 'e') == 'E') =
      true := by
    cases capital <;> rfl
  have hread := readNat?_digitChars (all_ne_nil digits)
  show Decimal.readExponent ((if capital then 'E' else 'e') ::
    ((sign.map Sign.char).toList ++ digitChars digits.all)) = _
  rw [Decimal.readExponent, if_pos hletter]
  cases sign with
  | none =>
    have hsign : Decimal.splitSign (digitChars digits.all) = (false, digitChars digits.all) :=
      splitSign_digit
    simp [hsign, hread, Exponent.value]
  | some sign =>
    cases sign with
    | plus => simp [Sign.char, Decimal.splitSign, hread, Exponent.value]
    | minus => simp [Sign.char, Decimal.splitSign, hread, Exponent.value]

theorem readExponent_exponentChars (n : Number) :
    Decimal.readExponent n.exponentChars = some (n.exponent.elim 0 Exponent.value) := by
  rw [exponentChars]
  cases n.exponent with
  | none => rfl
  | some e => exact readExponent_chars e

theorem spanDigits_exponentChars (ds : List Digit) (n : Number) :
    Decimal.spanDigits (digitChars ds ++ n.exponentChars) = (digitChars ds, n.exponentChars) := by
  apply spanDigits_append
  intro c hc
  obtain rfl | rfl := head?_exponentChars hc <;> rfl

theorem readUnsigned_magnitude (negative : Bool) (n : Number) :
    Decimal.readUnsigned negative n.magnitudeChars =
      some (Binary64.ofDecimal negative n.scaled.1 n.scaled.2) := by
  have hexponent := n.readExponent_exponentChars
  have hwhole : (digitChars n.whole.digits.all).isEmpty = false := rfl
  have hread : ∀ ds : List Digit,
      Decimal.readNat? 10 (digitChars n.whole.digits.all ++ digitChars ds) =
        some (digitsValue (n.whole.digits.all ++ ds)) := by
    intro ds
    rw [digitChars, digitChars, ← List.map_append]
    exact readNat?_digitChars (List.append_ne_nil_of_left_ne_nil (all_ne_nil _) _)
  cases hfraction : n.fraction with
  | none =>
    have hspan : Decimal.spanDigits n.magnitudeChars =
        (digitChars n.whole.digits.all, n.exponentChars) := by
      rw [magnitudeChars, fractionChars, hfraction, ← spanDigits_exponentChars]
      simp
    have hdigits : Decimal.readNat? 10 (digitChars n.whole.digits.all) =
        some (digitsValue n.whole.digits.all) := readNat?_digitChars (all_ne_nil _)
    rw [Decimal.readUnsigned, hspan]
    cases hchars : n.exponentChars with
    | nil =>
      rw [hchars] at hexponent
      simp [hwhole, hexponent, hdigits, scaled, fractionDigits, hfraction]
    | cons c rest =>
      rw [hchars] at hexponent
      obtain rfl | rfl := head?_exponentChars (by rw [hchars]; rfl)
      all_goals simp [hwhole, hexponent, hdigits, scaled, fractionDigits, hfraction]
  | some ds =>
    have hspan : Decimal.spanDigits n.magnitudeChars =
        (digitChars n.whole.digits.all, '.' :: (digitChars ds.all ++ n.exponentChars)) := by
      rw [magnitudeChars, fractionChars, hfraction, List.append_assoc]
      apply spanDigits_append
      intro c hc
      obtain rfl : '.' = c := by simpa using hc
      rfl
    rw [Decimal.readUnsigned, hspan]
    simp only [spanDigits_exponentChars, hwhole, Bool.false_and, Bool.false_eq_true, if_false,
      hexponent, hread]
    simp [scaled, fractionDigits, hfraction, digitChars]

theorem ofDecimal_neg (digits : Nat) (exponent : Int) :
    (Binary64.ofDecimal false digits exponent).neg = Binary64.ofDecimal true digits exponent := by
  have hparts : ∀ m e, (Binary64.ofParts false m e).neg = Binary64.ofParts true m e := by
    intro m e
    simp only [Binary64.ofParts]
    split <;> split <;> rfl
  have hratio : ∀ num den,
      (Binary64.ofRatio false num den).neg = Binary64.ofRatio true num den := by
    intro num den
    rw [Binary64.ofRatio, Binary64.ofRatio]
    split
    · rfl
    · exact hparts _ _
  simp only [Binary64.ofDecimal]
  split
  · exact hratio _ _
  · split
    · rfl
    · split
      · exact hratio _ _
      · split
        · exact hratio _ _
        · exact hratio _ _

theorem decimal_magnitude (n : Number) :
    Scalar.decimal n.magnitudeChars = .ok (Binary64.ofDecimal false n.scaled.1 n.scaled.2) := by
  have hword : Scalar.wordNumber? (String.ofList n.magnitudeChars) = none := by
    obtain ⟨rest, hrest⟩ := n.magnitudeChars_eq_cons
    have hne : ∀ w : String, w.toList.head? ≠ some n.whole.digits.first.char →
        (String.ofList n.magnitudeChars == w) = false := by
      intro w hw
      rw [beq_eq_false_iff_ne]
      intro heq
      subst heq
      rw [String.toList_ofList, hrest] at hw
      exact hw rfl
    have hletters : ∀ d : Digit, d.char ≠ 'i' ∧ d.char ≠ 'n' := by decide
    have hi := (hletters n.whole.digits.first).1
    have hn := (hletters n.whole.digits.first).2
    rw [Scalar.wordNumber?, hne "inf" (by simpa using Ne.symm hi),
      hne "infinity" (by simpa using Ne.symm hi), hne "nan" (by simpa using Ne.symm hn)]
    rfl
  rw [Scalar.decimal, plainNumber_eq_self fun c hc => mem_numerals_of_mem_magnitude hc,
    splitSign_magnitude]
  simp [hword, readUnsigned_magnitude]

theorem unsignedFloat_magnitude (n : Number) :
    Scalar.unsignedFloat n.magnitudeChars =
      .ok (Binary64.ofDecimal false n.scaled.1 n.scaled.2) := by
  have hpoint : ∀ d : Digit, d.char ≠ '.' := by decide
  have hne : ∀ s : List Char, s.head? = some '.' → (n.magnitudeChars == s) = false := by
    intro s hs
    rw [beq_eq_false_iff_ne]
    intro heq
    obtain ⟨rest, hrest⟩ := n.magnitudeChars_eq_cons
    rw [← heq, hrest] at hs
    exact hpoint _ (Option.some.inj hs)
  have hinf := hne ".inf".toList (by decide)
  have hnan := hne Scalar.undefinedWord (by decide)
  have hcolon := contains_colon_eq_false fun c hc => mem_numerals_of_mem_magnitude (n := n) hc
  rw [Scalar.unsignedFloat, hinf, hnan, hcolon, if_neg Bool.false_ne_true,
    if_neg Bool.false_ne_true, if_neg Bool.false_ne_true, decimal_magnitude]

/-- A number with a fraction or an exponent is read as one of double precision. -/
theorem float_chars (hwhole : n.isWhole = false) :
    Scalar.float (String.ofList n.chars) = .ok n.value := by
  have hnumerals : ∀ c ∈ n.lowered.chars, c ∈ numerals := fun c hc => mem_numerals hc
  have htext : Scalar.withoutUnderscores (Text.lower n.chars) = n.lowered.chars := by
    rw [lower_chars, withoutUnderscores_eq_self hnumerals]
  rw [Scalar.float, String.toList_ofList, htext]
  split
  · next hnil =>
    obtain ⟨c, rest, hchars, -⟩ := n.lowered.chars_eq_cons
    rw [hchars] at hnil
    cases hnil
  · rw [Scalar.floatText, String.toList_ofList, htext, splitSign_chars]
    simp only [unsignedFloat_magnitude, ← value_lowered n]
    rw [value, isWhole_lowered, hwhole]
    cases n.lowered.negative with
    | true => simp [bind, Except.bind, pure, Except.pure, ofDecimal_neg]
    | false => simp [bind, Except.bind, pure, Except.pure]

/-- A number is read under its tag as the number that it denotes. -/
theorem read_chars (hn : n.isShared = true) (site : Nat) :
    Scalar.read (Tag.ofPlain (String.ofList n.chars)) site (String.ofList n.chars) =
      .ok n.value := by
  rw [ofPlain_chars hn]
  by_cases hwhole : n.isWhole = true
  · rw [if_pos hwhole]
    exact int_chars hwhole hn
  · rw [if_neg hwhole]
    exact float_chars (Bool.eq_false_iff.mpr hwhole)

end Number

end DomainCompiler.Json

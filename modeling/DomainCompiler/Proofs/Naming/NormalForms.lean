import DomainCompiler.Proofs.Naming.Pascal
import Mathlib

/-!
# Spellings as normal forms

A name in Pascal case is made of its words one after the other, so that names that are joined by
separators are put in Pascal case one by one. Camel case only changes the first letter. In ASCII,
where every letter has one other case, the change can be taken back, and two names have the same
Pascal case where they have the same camel case.
-/

namespace DomainCompiler.Naming

open DomainCompiler.Text

/-! ### Names behind separators -/

theorem capitalize_joinWords (s : List Char) :
    capitalize (joinWords true s) = joinWords true s := by
  induction s with
  | nil => rfl
  | cons c rest ih =>
    rw [joinWords]
    by_cases hc : isSeparator c = true
    · rw [if_pos hc, ih]
    · rw [if_neg hc, if_pos rfl]
      rw [Bool.not_eq_true] at hc
      obtain ⟨u, more, hupper, hcapital, -⟩ := exists_upperChar_eq_cons hc
      rw [hupper, List.cons_append, capitalize, hcapital.upperChar]
      rfl

/-- Behind a separator a name is written as if it stood alone. -/
theorem joinWords_true (s : List Char) : joinWords true s = pascalChars s := by
  cases s with
  | nil => rfl
  | cons c rest =>
    rw [pascalChars, joinWords, joinWords]
    by_cases hc : isSeparator c = true
    · rw [if_pos hc, if_pos hc, capitalize_joinWords]
    · rw [if_neg hc, if_neg hc]
      rfl

theorem joinWords_separators {gap : List Char} (hgap : ∀ c ∈ gap, isSeparator c = true)
    (opening : Bool) : joinWords opening gap = [] := by
  induction gap generalizing opening with
  | nil => rfl
  | cons c rest ih =>
    obtain ⟨hc, hrest⟩ := List.forall_mem_cons.mp hgap
    rw [joinWords, if_pos hc, ih hrest]

theorem foldl_isSeparator {gap : List Char} (hne : gap ≠ [])
    (hgap : ∀ c ∈ gap, isSeparator c = true) (opening : Bool) :
    gap.foldl (fun _ c => isSeparator c) opening = true := by
  induction gap generalizing opening with
  | nil => exact absurd rfl hne
  | cons c rest ih =>
    obtain ⟨hc, hrest⟩ := List.forall_mem_cons.mp hgap
    rw [List.foldl_cons, hc]
    by_cases hlast : rest = []
    · rw [hlast]
      rfl
    · exact ih hlast hrest true

theorem capitalize_append {t : List Char} (h : IsPascal t) (s : List Char) :
    capitalize (s ++ t) = capitalize s ++ t := by
  cases s with
  | nil => exact h.capitalize_eq
  | cons c rest => exact (List.append_assoc (upperChar c) rest t).symm

theorem pascalChars_append {gap : List Char} (hne : gap ≠ [])
    (hgap : ∀ c ∈ gap, isSeparator c = true) (s t : List Char) :
    pascalChars (s ++ gap ++ t) = pascalChars s ++ pascalChars t := by
  have hwords : joinWords false (s ++ gap ++ t) = joinWords false s ++ pascalChars t := by
    rw [joinWords_append, joinWords_append, joinWords_separators hgap, List.append_nil,
      List.foldl_append, foldl_isSeparator hne hgap, joinWords_true]
  calc pascalChars (s ++ gap ++ t)
      = capitalize (joinWords false s ++ pascalChars t) := by rw [← hwords, pascalChars]
    _ = pascalChars s ++ pascalChars t := capitalize_append (isPascal_pascalChars t) _

/-! ### Words of ASCII -/

/-- What is no separator is ASCII. -/
def AsciiWords (s : List Char) : Prop := ∀ c ∈ s, isSeparator c = false → c.toNat < 0x80

instance (s : List Char) : Decidable (AsciiWords s) :=
  decidable_of_iff (s.all (fun c => isSeparator c || c.toNat < 0x80) = true)
    (by simp [AsciiWords, List.all_eq_true, ← Bool.not_eq_true, or_iff_not_imp_left])

theorem toNat_toUpper_lt : ∀ c : Char, c.toNat < 0x80 → c.toUpper.toNat < 0x80 :=
  forall_ascii (by decide +kernel)

theorem toNat_toLower_lt : ∀ c : Char, c.toNat < 0x80 → c.toLower.toNat < 0x80 :=
  forall_ascii (by decide +kernel)

theorem isSeparator_toLower :
    ∀ c : Char, c.toNat < 0x80 → isSeparator c.toLower = isSeparator c :=
  forall_ascii (by decide +kernel)

theorem toNat_lt_of_mem_joinWords {s : List Char} (h : AsciiWords s) (opening : Bool) :
    ∀ c ∈ joinWords opening s, c.toNat < 0x80 := by
  induction s generalizing opening with
  | nil => exact List.forall_mem_nil _
  | cons c rest ih =>
    obtain ⟨hc, hrest⟩ := List.forall_mem_cons.mp h
    rw [joinWords]
    by_cases hseparator : isSeparator c = true
    · rw [if_pos hseparator]
      exact ih hrest true
    · rw [if_neg hseparator, List.forall_mem_append]
      rw [Bool.not_eq_true] at hseparator
      refine ⟨?_, ih hrest false⟩
      cases opening with
      | false => simpa using hc hseparator
      | true =>
        rw [if_pos rfl, upperChar_ascii (hc hseparator)]
        simpa using toNat_toUpper_lt c (hc hseparator)

theorem toNat_lt_of_mem_pascalChars {s : List Char} (h : AsciiWords s) :
    ∀ c ∈ pascalChars s, c.toNat < 0x80 := by
  rw [← joinWords_true]
  exact toNat_lt_of_mem_joinWords h true

/-- The capital that camel case lowers comes back. -/
theorem pascalChars_camelChars {s : List Char} (h : AsciiWords s) :
    pascalChars (camelChars s) = pascalChars s := by
  have hascii := toNat_lt_of_mem_pascalChars h
  have hpascal := isPascal_pascalChars s
  rw [camelChars]
  cases hname : pascalChars s with
  | nil => rfl
  | cons u rest =>
    rw [hname] at hascii hpascal
    have hu : u.toNat < 0x80 := hascii u List.mem_cons_self
    have hcapital := hpascal.capital u rest rfl
    obtain ⟨-, hrest⟩ := List.forall_mem_cons.mp hpascal.isSeparator
    have hseparators : ∀ c ∈ u.toLower :: rest, isSeparator c = false := by
      rw [List.forall_mem_cons, isSeparator_toLower u hu]
      exact ⟨hcapital.isSeparator, hrest⟩
    have hback : upperChar u.toLower = [u] := by
      rw [upperChar_ascii (toNat_toLower_lt u hu), Char.toUpper_toLower_eq_toUpper,
        ← upperChar_ascii hu, hcapital.upperChar]
    rw [uncapitalize, lowerChar_ascii hu, List.singleton_append, pascalChars,
      joinWords_eq_self hseparators, capitalize, hback]
    rfl

theorem pascal_camel {s : String} (h : AsciiWords s.toList) : pascal (camel s) = pascal s := by
  rw [pascal, toList_camel, pascalChars_camelChars h, pascal]

/-! ### The laws -/

/-- The laws of the two spellings, for two names with a gap between them. -/
structure NormalForms (a gap b : String) : Prop where
  isSeparator_pascal : ∀ c ∈ (pascal a).toList, isSeparator c = false
  pascal_append : pascal (a ++ gap ++ b) = pascal a ++ pascal b
  pascal_pascal : pascal (pascal a) = pascal a
  camel_camel : camel (camel a) = camel a
  camel_pascal : camel (pascal a) = camel a
  pascal_camel : pascal (camel a) = pascal a
  pascal_eq_iff : pascal a = pascal b ↔ camel a = camel b

/-- Pascal case and camel case are normal forms, of which each is found from the other: names are
the same in one of them where they are the same in the other. -/
theorem normalForms {a gap b : String} (ha : AsciiWords a.toList) (hb : AsciiWords b.toList)
    (hne : gap ≠ "") (hgap : ∀ c ∈ gap.toList, isSeparator c = true) : NormalForms a gap b := by
  have camel_of_pascal : ∀ {s t : String}, pascal s = pascal t → camel s = camel t := by
    intro s t heq
    rw [← Naming.camel_pascal s, heq, Naming.camel_pascal]
  constructor
  case isSeparator_pascal =>
    rw [toList_pascal]
    exact (isPascal_pascalChars a.toList).isSeparator
  case pascal_append =>
    rw [← String.toList_inj, toList_pascal, String.toList_append, String.toList_append,
      String.toList_append, toList_pascal, toList_pascal]
    exact pascalChars_append (by simpa using hne) hgap a.toList b.toList
  case pascal_pascal => exact Naming.pascal_pascal a
  case camel_camel => exact camel_of_pascal (Naming.pascal_camel ha)
  case camel_pascal => exact Naming.camel_pascal a
  case pascal_camel => exact Naming.pascal_camel ha
  case pascal_eq_iff =>
    refine ⟨camel_of_pascal, fun heq => ?_⟩
    rw [← Naming.pascal_camel ha, heq, Naming.pascal_camel hb]

theorem normalForms_orderLine :
    AsciiWords "-order-line".toList ∧ AsciiWords "Total_amount ".toList ∧
      (∀ c ∈ " _\t".toList, isSeparator c = true) ∧
      NormalForms "-order-line" " _\t" "Total_amount " ∧
      pascal ("-order-line" ++ " _\t" ++ "Total_amount ") = "OrderLineTotalAmount" := by
  have ha : AsciiWords "-order-line".toList := by decide +kernel
  have hb : AsciiWords "Total_amount ".toList := by decide +kernel
  have hgap : ∀ c ∈ " _\t".toList, isSeparator c = true :=
    List.all_eq_true.mp (by decide +kernel)
  exact ⟨ha, hb, hgap, normalForms ha hb (by decide +kernel) hgap, by decide +kernel⟩

end DomainCompiler.Naming

import DomainCompiler.Proofs.Naming.Composition
import DomainCompiler.Proofs.Naming.FirstLetter

/-!
# From a name to the plural and back

The rules of the two numbers were not made to undo each other. The plural of `drive` is that of a
word in `f`, and one in `s` may be the plural of a word without it. The tables here say for every
name of one word what comes back. They are rules of the same form, they are read without going
through a plural, and that they are right is certified from the two tables of number.
-/

namespace DomainCompiler.Naming

/-- What comes back for words that the first rules of the singular, with those for single nouns and
for words without number, bring back. -/
def returnRules : List EndingRule :=
  [uncountableRule,
   -- The plural is a word without number.
   wholeRule ["jean", "serie", "specie"] [""] "s",
   wholeRule ["ser", "spec"] ["y"] "ies",
   wholeRule ["ox"] ["en", ""] "",
   rule ["z"] ["ombies", "ombie", "omby"] "ombie"] ++
  inBothCases 'k' 'c' "kine" "cow" ++ inBothCases 'c' 'c' "cow" "cow" ++
  [rule ["m"] ["oves", "ove", "ofe"] "ove",
   rule ["s"] ["exes", "exe", "ex"] "ex",
   rule ["c"] ["hildren", "hild"] "hild",
   rule ["h"] ["umans", "uman"] "uman",
   rule ["m"] ["en", "an"] "an",
   rule ["p"] ["eople", "erson"] "erson",
   rule ["database"] ["s", ""] "",
   rule ["databa"] ["sis"] "se",
   rule ["quiz"] ["zes", "ze", ""] "",
   rule ["matr"] ["ices", "ice", "ix", "ex"] "ix",
   rule ["vert", "ind"] ["ices", "ice", "ix", "ex"] "ex",
   rule ["passer"] ["sby", "by"] "by"]

/-- What comes back for all other words whose plural does not start as `oxen`. -/
def laterReturnRules : List EndingRule :=
  [wholeRule ["a"] ["x", "xis"] "xis",
   { wholeRule ["a"] [] "xis" with
     dropped := [[.letter 'x', .among ['i', 'e'], .letter 's'], [.letter 'x', .among ['i', 'e']]] },
   wholeRule ["test"] ["is"] "is",
   rule ["m", "l"] ["ice", "ouse"] "ouse",
   rule ["x", "ch", "ss", "sh"] ["es", "e", ""] "",
   rule ["m"] ["ovies", "ovie", "ovy"] "ovie",
   rule ["s"] ["eries", "erie", "ery"] "eries",
   ruleAfterOther "aeiouy" ["qu"] "ies" "y",
   ruleAfterOther "aeiouy" ["qu"] "ie" "y",
   ruleAfterOther "aeiouy" ["qu"] "y" "y",
   rule ["tive", "hive"] ["s", ""] "",
   rule ["ti", "hi"] ["fe"] "ve",
   -- Words in `f` and in `v` have the same plurals.
   ruleAfter "lr" "ves" "f",
   ruleAfter "lr" "ve" "f",
   ruleAfter "lr" "fe" "f",
   ruleAfter "lr" "f" "f",
   ruleAfterOther "f" [] "ves" "fe",
   ruleAfterOther "f" [] "ve" "fe",
   ruleAfterOther "f" [] "fe" "fe",
   rule ["alia", "statu", "bu", "s"] ["sis"] "s",
   rule ["cri"] ["sis"] "sis",
   rule ["cris", "test"] ["is", "es", "i", "e"] "is",
   rule ["t"] ["hesis", "heses", "hesi", "hese"] "hesis",
   rule ["s"] ["ynopsis", "ynopses", "ynopsi", "ynopse"] "ynopsis",
   rule ["p"] ["rognosis", "rognoses", "rognosi", "rognose"] "rognosis",
   rule ["p"] ["arenthesis", "arentheses", "arenthesi", "arenthese"] "arenthesis",
   rule ["d"] ["iagnosis", "iagnoses", "iagnosi", "iagnose"] "iagnosis",
   rule ["b"] ["asis", "ases", "asi", "ase"] "asis",
   rule ["a"] ["nalysis", "nalyses", "nalysi", "nalyse"] "nalysis",
   rule [""] ["sis"] "se",
   ruleAfter "ti" "a" "um",
   ruleAfter "ti" "um" "um",
   rule ["buffal", "potat", "tomat"] ["o"] "o",
   rule ["alias", "status"] ["es", "e", ""] "",
   rule ["octop", "vir"] ["us", "i", "u"] "us",
   rule ["shoe"] ["s", ""] "",
   rule ["o"] ["es", "e"] "",
   rule ["bus"] ["es", "e"] "",
   rule ["alia", "bu", "statu"] ["s", ""] "s",
   rule ["n"] ["ews", "ew"] "ews",
   -- All others lose an `s` at their end and return otherwise.
   rule [""] ["s", ""] ""]

/-- What comes back of a word that is put into the plural and then into the singular. -/
def returnedChars (s : List Char) : List Char :=
  ((returnRules.findSome? (·.apply s)).or ((oxenChange (pluralChars s)).or
    (laterReturnRules.findSome? (·.apply s)))).getD s

def returned (s : String) : String :=
  String.ofList (returnedChars s.toList)

/-! ### The tables are right -/

def changesOf (rules : List EndingRule) : List Change := rules.flatMap (·.changes)

/-- The rows of both tables, the second for words of which the first has no ending. -/
theorem certified :
    (certifies (changesOf pluralSteps) [] (changesOf singularSteps) [] (changesOf returnRules) &&
      certifies (changesOf pluralSteps) (changesOf singularSteps) (changesOf laterSingularSteps)
        ((changesOf returnRules).map (·.pattern)) (changesOf laterReturnRules)) = true := by
  decide +kernel

section Words

variable {s v : List Char} (hs : OneWord s) (hne : s ≠ [])
include hs

theorem findSome?_changesOf (rules : List EndingRule) :
    (changesOf rules).findSome? (·.make (fromEnd s)) =
      (rules.findSome? (·.apply s)).map fromEnd :=
  findSome?_make rules hs

theorem fits_eq_false_of_findSome?_eq_none {rules : List EndingRule}
    (h : rules.findSome? (·.apply s) = none) :
    ∀ p ∈ (changesOf rules).map (·.pattern), p.fits (fromEnd s) = false := by
  have hnone := findSome?_changesOf hs rules
  rw [h, Option.map_none, List.findSome?_eq_none_iff] at hnone
  intro p hp
  obtain ⟨x, hx, rfl⟩ := List.mem_map.mp hp
  have hmake := hnone x hx
  rw [Change.make] at hmake
  exact Bool.eq_false_iff.mpr fun hfits => by simp [hfits] at hmake

include hne

theorem of_composes {skipped second : List EndingRule}
    (h : Composes (changesOf pluralSteps) (changesOf skipped) (changesOf second) (fromEnd s)
      (fromEnd v)) :
    skipped.findSome? (·.apply (pluralChars s)) = none ∧
      second.findSome? (·.apply (pluralChars s)) = some v := by
  obtain ⟨u, hfirst, hskipped, hsecond⟩ := h
  rw [findSome?_changesOf hs, Option.map_eq_some_iff] at hfirst
  obtain ⟨w, hw, rfl⟩ := hfirst
  have hplural : pluralChars s = w := by
    rw [pluralChars_eq hs hne, hw]
    rfl
  have hword : OneWord w := hplural ▸ oneWord_pluralChars hs
  rw [findSome?_changesOf hword, Option.map_eq_none_iff] at hskipped
  rw [findSome?_changesOf hword, Option.map_eq_some_iff] at hsecond
  obtain ⟨v', hv', heq⟩ := hsecond
  rw [hplural, hskipped, hv', fromEnd_injective heq]
  exact ⟨rfl, rfl⟩

theorem singularSteps_of_returnRules (h : returnRules.findSome? (·.apply s) = some v) :
    singularSteps.findSome? (·.apply (pluralChars s)) = some v := by
  have hrows := (Bool.and_eq_true_iff.mp certified).1
  have hv : (changesOf returnRules).findSome? (·.make (fromEnd s)) = some (fromEnd v) := by
    rw [findSome?_changesOf hs, h]
    rfl
  have hcomposes : Composes (changesOf pluralSteps) (changesOf []) (changesOf singularSteps)
      (fromEnd s) (fromEnd v) :=
    composes_of_certifies hrows (List.forall_mem_nil _) hv
  exact (of_composes hs hne hcomposes).2

theorem laterSingularSteps_of_laterReturnRules (hnone : returnRules.findSome? (·.apply s) = none)
    (h : laterReturnRules.findSome? (·.apply s) = some v) :
    singularSteps.findSome? (·.apply (pluralChars s)) = none ∧
      laterSingularSteps.findSome? (·.apply (pluralChars s)) = some v := by
  have hrows := (Bool.and_eq_true_iff.mp certified).2
  have hv : (changesOf laterReturnRules).findSome? (·.make (fromEnd s)) = some (fromEnd v) := by
    rw [findSome?_changesOf hs, h]
    rfl
  exact of_composes hs hne
    (composes_of_certifies hrows (fits_eq_false_of_findSome?_eq_none hs hnone) hv)

end Words

/-- The last rule is one for every word. -/
theorem exists_laterReturnRules (s : List Char) :
    ∃ v, laterReturnRules.findSome? (·.apply s) = some v := by
  have hlast : rule [""] ["s", ""] "" ∈ laterReturnRules := List.mem_of_getLast? rfl
  have hempty : anyCase "" = [] := rfl
  refine Option.ne_none_iff_exists'.mp fun hnone => ?_
  have happly := List.findSome?_eq_none_iff.mp hnone _ hlast
  simp [EndingRule.apply, EndingRule.applyOne, rule, hempty, fitsAll] at happly

/-- What comes back from the plural can be told without forming it. -/
theorem singularChars_pluralChars {s : List Char} (hs : OneWord s) :
    singularChars (pluralChars s) = returnedChars s := by
  by_cases hne : s = []
  · subst hne
    decide +kernel
  · rw [singularChars_eq (oneWord_pluralChars hs), returnedChars]
    cases hearly : returnRules.findSome? (·.apply s) with
    | some v =>
      rw [singularSteps_of_returnRules hs hne hearly]
      rfl
    | none =>
      obtain ⟨v, hv⟩ := exists_laterReturnRules s
      obtain ⟨hskipped, hlater⟩ := laterSingularSteps_of_laterReturnRules hs hne hearly hv
      rw [hskipped, hlater, hv]
      cases oxenChange (pluralChars s) <;> rfl

/-- What a child is called after the collection that is called after it. -/
theorem pascal_singular_camel_plural {t : String} (h : OneWord t.toList) :
    pascal (singular (camel (plural t))) = pascal (returned t) := by
  rw [pascal_singular_camel h]
  simp only [pascal, singular, plural, returned, String.toList_ofList,
    singularChars_pluralChars h]


example : ["Item", "Address", "Drive", "Cache", "Data", "Orders"].map returned =
    ["Item", "Address", "Drife", "Cach", "Datum", "Order"] := by decide +kernel

end DomainCompiler.Naming

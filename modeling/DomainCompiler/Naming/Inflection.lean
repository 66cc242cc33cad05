import DomainCompiler.Text.Case
import DomainCompiler.Text.Word

/-!
# English plurals and singulars

Number is changed at the end of the word by the first rule whose pattern the ending has.
A rule keeps what its `kept` part matched, drops what its `dropped` part matched, and puts its
own ending behind. Patterns do not distinguish case unless a letter is marked `exactly`. One line
end at the end of the text is left where it is.
-/

namespace DomainCompiler.Naming

open DomainCompiler.Text

/-- One character of a pattern. -/
inductive Glyph where
  | letter (c : Char)
  | ascii (c : Char)
  | exactly (c : Char)
  | among (cs : List Char)
  | outside (cs : List Char)
  deriving DecidableEq, Repr

namespace Glyph

/--
Whether the character fits. Letters are compared without regard to case, `ascii` letters without
their look-alikes beyond ASCII.
-/
def fits : Glyph → Char → Bool
  | .letter a, c => foldLetter c == a
  | .ascii a, c => c.toLower == a
  | .exactly a, c => c == a
  | .among as, c => as.contains (foldLetter c)
  | .outside as, c => !as.contains (foldLetter c)

end Glyph

def anyCase (s : String) : List Glyph :=
  s.toList.map .letter

/-- Whether the text is of the length of the pattern and every character fits. -/
def fitsAll : List Glyph → List Char → Bool
  | [], [] => true
  | g :: gs, c :: cs => g.fits c && fitsAll gs cs
  | _, _ => false

/-- A rule of number. -/
structure EndingRule where
  /-- Alternatives of what stays. -/
  kept : List (List Glyph)
  /-- Alternatives of what goes. -/
  dropped : List (List Glyph)
  /-- What is put in its place. -/
  ending : String
  /-- The pattern has to cover the word from its start. -/
  whole : Bool := false
  deriving Repr

namespace EndingRule

/-- The word under the rule with one choice of alternatives, where its ending has them. -/
def applyOne (whole : Bool) (kept dropped : List Glyph) (ending : String)
    (word : List Char) : Option (List Char) :=
  let size := kept.length + dropped.length
  if size ≤ word.length && (!whole || size == word.length) &&
      fitsAll (kept ++ dropped) (word.drop (word.length - size)) then
    some (word.take (word.length - dropped.length) ++ ending.toList)
  else none

/-- The word under the rule, where some choice of alternatives is its ending. -/
def apply (r : EndingRule) (word : List Char) : Option (List Char) :=
  r.kept.findSome? fun k => r.dropped.findSome? fun d => applyOne r.whole k d r.ending word

end EndingRule

/-- A rule that keeps one of the words, drops one of the endings and puts another. -/
def rule (kept dropped : List String) (ending : String) : EndingRule :=
  { kept := kept.map anyCase, dropped := dropped.map anyCase, ending }

def wholeRule (kept dropped : List String) (ending : String) : EndingRule :=
  { rule kept dropped ending with whole := true }

/-- A rule for an ending after one character that is none of the given ones. -/
def ruleAfterOther (cs : String) (more : List String) (dropped ending : String) : EndingRule :=
  { kept := [.outside cs.toList] :: more.map anyCase, dropped := [anyCase dropped], ending }

def ruleAfter (cs : String) (dropped ending : String) : EndingRule :=
  { kept := [[.among cs.toList]], dropped := [anyCase dropped], ending }

/-- A noun whose plural is formed by no rule, and whose two forms share their first letter. -/
structure Irregular where
  singular : String
  plural : String

def firstAndRest (s : String) : List Char × List Char :=
  (s.toList.take 1, s.toList.drop 1)

/-- Turns `source` into `target`, keeping the first letter as it is written. -/
def sameFirst (source target : String) : EndingRule :=
  { kept := [(firstAndRest source).1.map .letter]
    dropped := [(firstAndRest source).2.map .letter]
    ending := String.ofList (firstAndRest target).2 }

/-- The rule from a word that starts with exactly `first` to a word that starts with `other`. -/
def newFirst (first other : Char) (source target : String) : EndingRule :=
  { kept := [[]]
    dropped := [.exactly first :: (firstAndRest source).2.map .ascii]
    ending := String.ofList (other :: (firstAndRest target).2) }

/-- The nouns whose forms share their first letter, the last declared first. -/
def irregulars : List Irregular :=
  [⟨"move", "moves"⟩, ⟨"sex", "sexes"⟩, ⟨"child", "children"⟩, ⟨"human", "humans"⟩, ⟨"man", "men"⟩,
   ⟨"person", "people"⟩]

def Irregular.plurals (i : Irregular) : List EndingRule :=
  [sameFirst i.plural i.plural, sameFirst i.singular i.plural]

def Irregular.singulars (i : Irregular) : List EndingRule :=
  [sameFirst i.plural i.singular]

/-- The rules towards the plural, in the order in which they are tried. -/
def pluralRules : List EndingRule :=
  Irregular.plurals ⟨"zombie", "zombies"⟩ ++
  [newFirst 'k' 'k' "kine" "kine", newFirst 'K' 'K' "kine" "kine",
   newFirst 'c' 'k' "cow" "kine", newFirst 'C' 'K' "cow" "kine"] ++
  irregulars.flatMap Irregular.plurals ++
  [rule ["quiz"] [""] "zes",
   wholeRule ["oxen"] [""] "",
   wholeRule ["ox"] [""] "en",
   rule ["m", "l"] ["ice"] "ice",
   rule ["m", "l"] ["ouse"] "ice",
   rule ["passer"] ["sby", "by"] "sby",
   rule ["matr", "vert", "ind"] ["ix", "ex"] "ices",
   rule ["x", "ch", "ss", "sh"] [""] "es",
   ruleAfterOther "aeiouy" ["qu"] "y" "ies",
   rule ["hive"] [""] "s",
   ruleAfter "lr" "f" "ves",
   ruleAfterOther "f" [] "fe" "ves",
   rule [""] ["sis"] "ses",
   ruleAfter "ti" "a" "a",
   ruleAfter "ti" "um" "a",
   rule ["buffal", "potat", "tomat"] ["o"] "oes",
   rule ["bu"] ["s"] "ses",
   rule ["alias", "status"] [""] "es",
   rule ["octop", "vir"] ["i"] "i",
   rule ["octop", "vir"] ["us"] "i",
   wholeRule ["ax", "test"] ["is"] "es",
   rule [""] ["s"] "s"]

/-- The rules towards the singular, in the order in which they are tried. -/
def singularRules : List EndingRule :=
  Irregular.singulars ⟨"zombie", "zombies"⟩ ++
  [newFirst 'k' 'c' "kine" "cow", newFirst 'K' 'C' "kine" "cow"] ++
  irregulars.flatMap Irregular.singulars ++
  [rule ["database"] ["s"] "",
   rule ["quiz"] ["zes"] "",
   rule ["matr"] ["ices"] "ix",
   rule ["vert", "ind"] ["ices"] "ex",
   rule ["passer"] ["sby"] "by"]

/-- The rules towards the singular after the one for `oxen`. -/
def laterSingularRules : List EndingRule :=
  [rule ["alias", "status"] ["es", ""] "",
   rule ["octop", "vir"] ["us", "i"] "us",
   { wholeRule ["a"] [] "xis" with
     dropped := [[.letter 'x', .among ['i', 'e'], .letter 's']] },
   rule ["cris", "test"] ["is", "es"] "is",
   rule ["shoe"] ["s"] "",
   rule ["o"] ["es"] "",
   rule ["bus"] ["es", ""] "",
   rule ["m", "l"] ["ice"] "ouse",
   rule ["x", "ch", "ss", "sh"] ["es"] "",
   rule ["m"] ["ovies"] "ovie",
   rule ["s"] ["eries"] "eries",
   ruleAfterOther "aeiouy" ["qu"] "ies" "y",
   ruleAfter "lr" "ves" "f",
   rule ["tive"] ["s"] "",
   rule ["hive"] ["s"] "",
   ruleAfterOther "f" [] "ves" "fe",
   rule ["t"] ["hesis", "heses"] "hesis",
   rule ["s"] ["ynopsis", "ynopses"] "ynopsis",
   rule ["p"] ["rognosis", "rognoses"] "rognosis",
   rule ["p"] ["arenthesis", "arentheses"] "arenthesis",
   rule ["d"] ["iagnosis", "iagnoses"] "iagnosis",
   rule ["b"] ["asis", "ases"] "asis",
   rule ["a"] ["nalysis", "nalyses"] "nalysis",
   ruleAfter "ti" "a" "um",
   rule ["n"] ["ews"] "ews",
   rule ["ss"] [""] "",
   rule [""] ["s"] ""]

def uncountables : List String :=
  ["equipment", "fish", "information", "jeans", "money", "rice", "series", "sheep", "species"]

/-- The text before one line end at its end, and that line end. -/
def splitLineEnd (s : List Char) : List Char × List Char :=
  match s.reverse with
  | '\n' :: rest => (rest.reverse, ['\n'])
  | _ => (s, [])

def firstChange (rules : List EndingRule) (s : List Char) : Option (List Char) :=
  (rules.findSome? fun r => r.apply (splitLineEnd s).1).map (· ++ (splitLineEnd s).2)

/-- Without a rule an `s` is added, also behind a line end at the end. -/
def addS (s : List Char) : List Char :=
  match splitLineEnd s with
  | (word, []) => word ++ ['s']
  | (word, lineEnd) => word ++ 's' :: lineEnd ++ ['s']

def pluralChars (s : List Char) : List Char :=
  if s.isEmpty || uncountables.any (·.toList == lower s) then s
  else (firstChange pluralRules s).getD (addS s)

/-- Whether the text ends in the word, with no word character before it. -/
def endsInWord (word : List Char) (s : List Char) : Bool :=
  word.length ≤ s.length &&
    fitsAll (word.map .letter) (s.drop (s.length - word.length)) &&
    !startsInWord (s.take (s.length - word.length)).reverse

/-- A word that starts as `oxen` loses its `en`. -/
def oxenChange (s : List Char) : Option (List Char) :=
  if fitsAll (anyCase "oxen") (s.take 4) then some (s.take 2 ++ s.drop 4) else none

def singularChars (s : List Char) : List Char :=
  if uncountables.any (endsInWord ·.toList s) then s
  else
    (firstChange singularRules s <|> oxenChange s <|> firstChange laterSingularRules s).getD s

def plural (s : String) : String :=
  String.ofList (pluralChars s.toList)

def singular (s : String) : String :=
  String.ofList (singularChars s.toList)

end DomainCompiler.Naming

import DomainCompiler.Text.Ranges
import DomainCompiler.Text.WordTable

/-!
# Word characters and whole words

A word character is a letter, a digit or the underscore. A name stands as a whole word in a
text where it occurs without a word character directly before or after it.
-/

namespace DomainCompiler.Text

def isWordChar (c : Char) : Bool :=
  if c.toNat < 0x80 then c.isAlphanum || c == '_' else inRanges wordRanges c.toNat

theorem isWordChar_ascii {c : Char} (h : c.toNat < 0x80) :
    isWordChar c = (c.isAlphanum || c == '_') := by
  simp [isWordChar, h]

def startsInWord : List Char → Bool
  | [] => false
  | c :: _ => isWordChar c

/--
Whether the word occurs as a whole in the text. The first argument says whether the character
before the text is a word character.
-/
def hasWordAfter (word : List Char) : Bool → List Char → Bool
  | _, [] => false
  | inWord, c :: rest =>
    (!inWord && word.isPrefixOf (c :: rest) && !startsInWord ((c :: rest).drop word.length)) ||
      hasWordAfter word (isWordChar c) rest

/-- Whether the word, itself made of word characters, stands as a whole in the text. -/
def hasWord (word : String) (text : String) : Bool :=
  hasWordAfter word.toList false text.toList

end DomainCompiler.Text

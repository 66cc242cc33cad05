import DomainCompiler.Value.Excess

/-!
# What is wrong with a document

A text that is no YAML document is malformed. A document whose scalars claim a type that their
text does not write is well formed, but has no value.
-/

namespace DomainCompiler.Yaml

/-- The rules that a malformed document breaks. -/
inductive Malformed where
  /-- A character that no document holds. -/
  | character
  /-- A character that no token starts with. -/
  | noToken
  /-- An entry, a key or a value that cannot stand at its place. -/
  | misplaced
  /-- A key without its colon. -/
  | colonMissing
  | directive
  | anchorName
  | tagText
  /-- A quoted scalar that does not end, or an escape that is not known. -/
  | quoted
  | blockHeader
  /-- Tokens that no node is made of. -/
  | arrangement
  | version
  | handle
  | anchorTwice
  | aliasUnknown
  /-- A second document. -/
  | documents
  /-- A tag whose values are not known. -/
  | tagUnknown
  /-- A node of another kind than its tag asks for. -/
  | kind
  /-- A key that is a collection. -/
  | key
  /-- A merged node that is no mapping. -/
  | merge
  | base64
  deriving DecidableEq, Repr

/-- Scalars that do not write a value of their type. -/
inductive ScalarError where
  | whole (base : Nat) (text : String)
  | decimal (text : String)
  | truth (text : String)
  /-- A number without a digit. -/
  | empty
  | moment
  | calendar (error : CalendarError)
  /-- An escape beyond the last character. -/
  | codePoint
  /-- A whole number of more digits than are read. -/
  | tooLong (digits : Nat)
  /-- So many parts of sixty that the unit of the first one is no number. -/
  | overflow
  /-- A mapping that stands for a date. -/
  | notText
  deriving DecidableEq, Repr

inductive Fault where
  | malformed (rule : Malformed)
  | scalar (error : ScalarError)
  /-- Collections inside of each other without end, or too deep. -/
  | endless
  deriving DecidableEq, Repr

namespace ScalarError

open DomainCompiler.Text
open DomainCompiler.Excess (limitText limitAdvice)

/-- How much of a text that writes no whole number is shown, with its quotes. -/
def shownLength : Nat := 200

def calendarMessage : CalendarError → String
  | .year n => "year " ++ Decimal.ofInt n ++ " is out of range"
  | .month => "month must be in 1..12"
  | .day => "day is out of range for month"
  | .hour => "hour must be in 0..23"
  | .minute => "minute must be in 0..59"
  | .second => "second must be in 0..59"
  | .offset minutes =>
    "offset must be a timedelta strictly between -timedelta(hours=24) and timedelta(hours=24), not "
      ++ Value.shownSpan minutes ++ "."

def message : ScalarError → String
  | .whole base text =>
    "invalid literal for int() with base " ++ Decimal.ofInt base ++ ": " ++
      String.ofList ((quoted text).toList.take shownLength)
  | .decimal text => "could not convert string to float: " ++ quoted text
  | .truth text => quoted text
  | .empty => "string index out of range"
  | .moment => "'NoneType' object has no attribute 'groupdict'"
  | .calendar error => calendarMessage error
  | .codePoint => "chr() arg not in range(0x110000)"
  | .tooLong digits =>
    limitText ++ ": value has " ++ Decimal.ofInt digits ++ " digits" ++ limitAdvice
  | .overflow => "int too large to convert to float"
  | .notText => "expected string or bytes-like object, got 'list'"

end ScalarError

end DomainCompiler.Yaml

import DomainCompiler.Number.Decimal

/-!
# Problems of form

What can be wrong with the form of a value, where it is wrong, and how that is told: by a code, by
a message, and for readers of a description by a friendlier text and a suggestion.
-/

namespace DomainCompiler.Schema

/-- One step from a value to a part of it. -/
inductive Step where
  | key (name : String)
  | index (n : Int)
  deriving DecidableEq, Repr

/-- The cause of a problem. -/
inductive Fault where
  | missing
  | unknownKey
  | keyNotText
  | notText
  | bytesNotText
  | textTooShort (least : Nat)
  | notList
  | notTuple
  | listTooShort (least : Nat)
  | tupleTooShort (least : Nat)
  | notMapping (expected : String)
  | notBool
  | unreadableBool
  | notInt
  | unreadableInt
  | intTooLarge
  | fraction
  | notFinite
  | notNumber
  | unreadableNumber
  | notOneOf (allowed : List String)
  | twoSpellings (key other : String)
  deriving DecidableEq, Repr

structure Problem where
  path : List Step
  fault : Fault
  deriving DecidableEq, Repr

namespace Step

def text : Step → String
  | .key name => name
  | .index n => Decimal.ofInt n

end Step

/-- The words `a`, `b or c`, `a, b or c` for a list of names, each in single quotes. -/
def alternatives : List String → String
  | [] => ""
  | [a] => "'" ++ a ++ "'"
  | [a, b] => "'" ++ a ++ "' or '" ++ b ++ "'"
  | a :: rest => "'" ++ a ++ "', " ++ alternatives rest

namespace Fault

/-- The code of the fault. -/
def code : Fault → String
  | .missing => "missing"
  | .unknownKey => "extra_forbidden"
  | .keyNotText => "invalid_key"
  | .notText => "string_type"
  | .bytesNotText => "string_unicode"
  | .textTooShort _ => "string_too_short"
  | .notList => "list_type"
  | .notTuple => "tuple_type"
  | .listTooShort _ => "too_short"
  | .tupleTooShort _ => "too_short"
  | .notMapping _ => "model_type"
  | .notBool => "bool_type"
  | .unreadableBool => "bool_parsing"
  | .notInt => "int_type"
  | .unreadableInt => "int_parsing"
  | .intTooLarge => "int_parsing_size"
  | .fraction => "int_from_float"
  | .notFinite => "finite_number"
  | .notNumber => "float_type"
  | .unreadableNumber => "float_parsing"
  | .notOneOf _ => "enum"
  | .twoSpellings .. => "value_error"

/-- A number of things, `1 item` or `2 items`. -/
def counted (n : Nat) (thing : String) : String :=
  Decimal.ofInt n ++ " " ++ thing ++ (if n = 1 then "" else "s")

def twoSpellingsText (key other : String) : String :=
  "Use either '" ++ key ++ "' or '" ++ other ++ "', not both"

/-- The message of the fault. -/
def message : Fault → String
  | .missing => "Field required"
  | .unknownKey => "Extra inputs are not permitted"
  | .keyNotText => "Keys should be strings"
  | .notText => "Input should be a valid string"
  | .bytesNotText =>
    "Input should be a valid string, unable to parse raw data as a unicode string"
  | .textTooShort n => "String should have at least " ++ counted n "character"
  | .notList => "Input should be a valid list"
  | .notTuple => "Input should be a valid tuple"
  | .listTooShort n =>
    "List should have at least " ++ counted n "item" ++ " after validation, not 0"
  | .tupleTooShort n =>
    "Tuple should have at least " ++ counted n "item" ++ " after validation, not 0"
  | .notMapping expected => "Input should be a valid dictionary or instance of " ++ expected
  | .notBool => "Input should be a valid boolean"
  | .unreadableBool => "Input should be a valid boolean, unable to interpret input"
  | .notInt => "Input should be a valid integer"
  | .unreadableInt => "Input should be a valid integer, unable to parse string as an integer"
  | .intTooLarge => "Unable to parse input string as an integer, exceeded maximum size"
  | .fraction => "Input should be a valid integer, got a number with a fractional part"
  | .notFinite => "Input should be a finite number"
  | .notNumber => "Input should be a valid number"
  | .unreadableNumber => "Input should be a valid number, unable to parse string as a number"
  | .notOneOf allowed => "Input should be " ++ alternatives allowed
  | .twoSpellings key other => "Value error, " ++ twoSpellingsText key other

end Fault

/-- A problem as it is told: the code, the message, and what the fault says about itself. -/
structure Report where
  code : String
  message : String
  path : List Step
  /-- What was expected, in words. -/
  expected : Option String := none
  /-- The least length that was asked for. -/
  least : Option String := none
  /-- The reason given by a check on the whole value. -/
  reason : Option String := none
  deriving DecidableEq, Repr

namespace Problem

/-- The problem as it is told. -/
def report (p : Problem) : Report :=
  let plain : Report := { code := p.fault.code, message := p.fault.message, path := p.path }
  match p.fault with
  | .notOneOf allowed => { plain with expected := some (alternatives allowed) }
  | .textTooShort n => { plain with least := some (Decimal.ofInt n) }
  | .listTooShort n => { plain with least := some (Decimal.ofInt n) }
  | .tupleTooShort n => { plain with least := some (Decimal.ofInt n) }
  | .twoSpellings key other => { plain with reason := some (Fault.twoSpellingsText key other) }
  | _ => plain

/-- The problem seen from a value that holds the faulty one one step below. -/
def under (s : Step) (p : Problem) : Problem :=
  { p with path := s :: p.path }

def dottedPath (p : Problem) : String :=
  ".".intercalate (p.path.map Step.text)

end Problem

namespace Report

/-- The steps behind the first one: indices in brackets, names behind a dot. -/
def laterSteps : List Step → String
  | [] => ""
  | .key name :: rest => "." ++ name ++ laterSteps rest
  | .index n :: rest => "[" ++ Decimal.ofInt n ++ "]" ++ laterSteps rest

/-- Where the problem is, as in `aggregates[0].entities[1].isRoot`. -/
def location (r : Report) : String :=
  match r.path with
  | .key name :: rest => name ++ laterSteps rest
  | steps => laterSteps steps

/-- The friendlier text of a code, where it has one of its own. -/
def plainText : String → Option String
  | "missing" => some "This field is required but was not provided"
  | "extra_forbidden" => some "This field is not allowed in this context"
  | "string_type" => some "Must be a string"
  | "int_type" => some "Must be an integer"
  | "bool_type" => some "Must be true or false"
  | "list_type" => some "Must be a list"
  | "dict_type" => some "Must be an object/dictionary"
  | "model_type" => some "Must be an object/dictionary"
  | _ => none

/-- What is wrong, for readers of a description. -/
def explanation (r : Report) : String :=
  if r.code == "enum" then "Must be one of: " ++ r.expected.getD "unknown"
  else if r.code == "string_too_short" then
    "Must be at least " ++ r.least.getD "0" ++ " characters"
  else if r.code == "too_short" then
    "Must contain at least " ++ r.least.getD "0" ++ " item(s)"
  else if r.code == "value_error" then r.reason.getD r.message
  else (plainText r.code).getD r.message

/-- How to mend it, where there is advice. -/
def suggestion (r : Report) : Option String :=
  if r.code == "enum" then
    some ("Use one of the allowed values: " ++ r.expected.getD "check documentation")
  else
    match r.code with
    | "missing" => some "Add the required field to your YAML"
    | "extra_forbidden" => some "Remove this field or check for typos"
    | "bool_type" => some "Use an unquoted true or false"
    | "too_short" => some "Add at least one entry"
    | _ => none

end Report

end DomainCompiler.Schema

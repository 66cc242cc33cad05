import DomainCompiler.Declared.Basic

/-!
# Annotations of fields

How a constraint is written as an annotation, and how the column annotation is found among the
annotations that are passed on as they are.
-/

namespace DomainCompiler.Model

namespace Annotation

def boundText : Bound → String
  | .int n => Decimal.ofInt n
  | .float x => Decimal.ofBinary64 .standard x
  | .text s => s

def textAttribute (name s : String) : String :=
  name ++ " = \"" ++ s ++ "\""

def boundAttribute (name : String) (b : Bound) : String :=
  name ++ " = " ++ boundText b

/-- The attributes that are there, in their fixed order with the message last. -/
def attributes (c : Declared.Constraint) : List String :=
  [c.value.map (boundAttribute "value"),
   c.min.map (boundAttribute "min"),
   c.max.map (boundAttribute "max"),
   c.regexp.map (textAttribute "regexp"),
   c.integer.map (fun n => "integer = " ++ Decimal.ofInt n),
   c.fraction.map (fun n => "fraction = " ++ Decimal.ofInt n),
   c.inclusive.map (fun b => "inclusive = " ++ if b then "true" else "false"),
   c.message.map (textAttribute "message")].filterMap id

/-- The annotation of a constraint; without attributes it stands bare. -/
def ofConstraint (c : Declared.Constraint) : String :=
  match attributes c with
  | [] => "@" ++ c.kind
  | as => "@" ++ c.kind ++ "(" ++ ", ".intercalate as ++ ")"

def occurs (word : List Char) : List Char → Bool
  | [] => word.isEmpty
  | c :: rest => word.isPrefixOf (c :: rest) || occurs word rest

def columnOpening : List Char := "@Column(".toList

/-- Whether `@Column(` is followed by a closing parenthesis on its line. -/
def hasColumnArguments : List Char → Bool
  | [] => false
  | c :: rest =>
    (columnOpening.isPrefixOf (c :: rest) &&
        (((c :: rest).drop columnOpening.length).takeWhile (· != '\n')).contains ')') ||
      hasColumnArguments rest

/-- The first annotation that names a column, where it has arguments. -/
def column? (annotations : List String) : Option String :=
  (annotations.find? fun a => occurs "@Column".toList a.toList).filter fun a =>
    hasColumnArguments a.toList

end Annotation

end DomainCompiler.Model

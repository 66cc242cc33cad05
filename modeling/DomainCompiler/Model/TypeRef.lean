import DomainCompiler.Naming.Spelling

/-!
# Types of fields

A declared type is a built-in scalar, a list of some type, or the name of something that the
description declares. Names are not looked up here: any name is accepted.
-/

namespace DomainCompiler.Model

open DomainCompiler.Naming

inductive TypeRef where
  /-- A built-in scalar. -/
  | known (name : String)
  /-- A declared type; `inlineEnum` when the field declares its values itself. -/
  | userDefined (name : String) (inlineEnum : Bool)
  | collection (element : TypeRef)
  deriving DecidableEq, Repr

def scalarTypes : List String :=
  ["String", "Integer", "Long", "Double", "BigDecimal", "Boolean", "LocalDate", "LocalDateTime",
    "LocalTime", "UUID"]

def listOpening : List Char := "List<".toList

def dropLineEnd (s : List Char) : List Char :=
  match s.reverse with
  | '\n' :: rest => rest.reverse
  | _ => s

theorem length_dropLineEnd_le (s : List Char) : (dropLineEnd s).length ≤ s.length := by
  unfold dropLineEnd
  split
  · next rest h =>
    have := congrArg List.length h
    simp only [List.length_reverse, List.length_cons] at this
    simp only [List.length_reverse]
    omega
  · exact Nat.le_refl _

/-- What stands between `List<` and `>`: not empty, and on one line. -/
def listElement? (s : List Char) : Option (List Char) :=
  let body := dropLineEnd s
  let inner := (body.drop listOpening.length).dropLast
  if listOpening.isPrefixOf body && body.getLast? == some '>' && !inner.isEmpty &&
      !inner.contains '\n' then
    some inner
  else none

theorem length_lt_of_listElement? {s inner : List Char} (h : listElement? s = some inner) :
    inner.length < s.length := by
  unfold listElement? at h
  simp only at h
  split at h
  · next hc =>
    simp only [Bool.and_eq_true, Bool.not_eq_true', List.isEmpty_eq_false_iff] at hc
    cases h
    have hpos := List.length_pos_iff.2 hc.1.2
    have hle := length_dropLineEnd_le s
    simp only [List.length_dropLast, List.length_drop] at hpos ⊢
    omega
  · cases h

/-- The type inside a list: names are taken as they are written. -/
def elementType (s : List Char) : TypeRef :=
  match _h : listElement? s with
  | some inner => .collection (elementType inner)
  | none =>
    let name := String.ofList s
    if scalarTypes.contains name then .known name else .userDefined name false
termination_by s.length
decreasing_by exact length_lt_of_listElement? _h

namespace TypeRef

/--
The type that a declaration means. With values of its own the field's type is the enum they make
up, whatever it is called; a name that is no scalar is put in Pascal case.
-/
def resolve (declared : String) (enumValues : Option (List String)) : TypeRef :=
  match enumValues with
  | some _ => .userDefined (pascal declared) true
  | none =>
    match listElement? declared.toList with
    | some inner => .collection (elementType inner)
    | none =>
      if scalarTypes.contains declared then .known declared
      else .userDefined (pascal declared) false

def render : TypeRef → String
  | .known name => name
  | .userDefined name _ => name
  | .collection element => "List<" ++ element.render ++ ">"

def elementOf : TypeRef → TypeRef
  | .collection element => element
  | t => t

def collectionElement : TypeRef → Option String
  | .collection element => some element.render
  | _ => none

def isCollection : TypeRef → Bool
  | .collection _ => true
  | _ => false

/-- The declared name at the bottom of the lists, unless the field declares it itself. -/
def declaredName? : TypeRef → Option String
  | .collection element => element.declaredName?
  | .userDefined name false => some name
  | _ => none

/--
The type under which values are stored: a value object, alone or in a list, is stored as the
class with the suffix.
-/
def persistence (t : TypeRef) (valueObjects : List String) (suffix : String) (forced : Bool) :
    String :=
  match t with
  | .collection element =>
    if forced || valueObjects.contains element.render then
      "List<" ++ element.render ++ suffix ++ ">"
    else t.render
  | _ => if forced || valueObjects.contains t.render then t.render ++ suffix else t.render

theorem collectionElement_isSome (t : TypeRef) : t.collectionElement.isSome = t.isCollection := by
  cases t <;> rfl

end TypeRef

end DomainCompiler.Model

import DomainCompiler.Model.Annotation
import DomainCompiler.Model.Enum
import DomainCompiler.Model.TypeRef

/-!
# Resolved fields

A field's type is resolved against the value objects and the enums of its aggregate. A field whose
enum names an initial value is set from it and therefore never an input.
-/

namespace DomainCompiler.Model

open DomainCompiler.Naming

structure Field where
  name : String
  /-- The name as declared. -/
  originalName : String
  declaredType : String
  typeRef : TypeRef
  resolvedType : String
  persistenceType : String
  isCollection : Bool
  collectionElementType : Option String
  isValueObject : Bool
  isEmbedded : Bool
  isEnum : Bool
  readOnly : Bool
  hidden : Bool
  /-- The constraints as annotations. -/
  constraintAnnotations : List String
  annotations : List String
  columnAnnotation : Option String
  stateMachine : Option StateMachine
  autoInit : Bool
  autoInitValue : Option String
  /-- Added by the audit settings. -/
  isSynthetic : Bool
  deriving DecidableEq, Repr

namespace Field

/-- The element type of a list, any other type itself. -/
def elementType (f : Field) : String :=
  match f.collectionElementType with
  | some t => if t.isEmpty then f.resolvedType else t
  | none => f.resolvedType

/--
Resolves a field. `valueObjects` are the names of the value objects and `enums` the enums that
the type may mean; of several enums with one name the first counts.
-/
def resolve (valueObjects : List String) (enums : List EnumType) (suffix : String)
    (synthetic : Bool) (d : Declared.Field) : Field :=
  let type := TypeRef.resolve d.type d.enumValues
  let rendered := type.render
  let element := type.collectionElement
  let meant := EnumType.find? rendered enums
  let initial := meant.bind (·.initialValue)
  { name := camel d.name
    originalName := d.name
    declaredType := d.type
    typeRef := type
    resolvedType := rendered
    persistenceType := type.persistence valueObjects suffix d.isValueObject
    isCollection := element.isSome
    collectionElementType := element
    isValueObject :=
      d.isValueObject || valueObjects.contains rendered || element.any valueObjects.contains
    isEmbedded := d.isEmbedded
    isEnum := d.enumValues.isSome || meant.isSome
    readOnly := d.readOnly || initial.isSome
    hidden := d.hidden
    constraintAnnotations := d.constraints.map Annotation.ofConstraint
    annotations := d.annotations
    columnAnnotation := Annotation.column? d.annotations
    stateMachine := meant.bind StateMachine.ofEnum?
    autoInit := initial.isSome
    autoInitValue := initial
    isSynthetic := synthetic }

end Field

end DomainCompiler.Model

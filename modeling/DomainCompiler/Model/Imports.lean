import DomainCompiler.Model.Field
import DomainCompiler.Model.Options
import DomainCompiler.Model.Relationship
import DomainCompiler.Text.NameSet
import DomainCompiler.Text.Word

/-!
# Imports of generated sources

Which imports the types of fields and parameters call for. Import lists ascend and repeat nothing.
-/

namespace DomainCompiler.Model.Imports

open DomainCompiler.Text

/-- The types that have to be imported, with their imports. -/
def typeImports : List (String × String) :=
  [("BigDecimal", "java.math.BigDecimal"),
   ("LocalDate", "java.time.LocalDate"),
   ("LocalDateTime", "java.time.LocalDateTime"),
   ("LocalTime", "java.time.LocalTime"),
   ("Instant", "java.time.Instant"),
   ("UUID", "java.util.UUID")]

def listImport : String := "java.util.List"

def arrayListImport : String := "java.util.ArrayList"

def collectionsImport : String := "java.util.Collections"

def constraintImport : String := "jakarta.validation.constraints.*"

/-- The imports of the types whose names stand as whole words in the type. -/
def ofType (type : String) : List String :=
  typeImports.filterMap fun e => if hasWord e.1 type then some e.2 else none

/-- The element of a list type, any other type itself. -/
def withoutList (type : String) : String :=
  match listElement? type.toList with
  | some inner => String.ofList inner
  | none => type

/-- The full names of the enums among the types, where they can be told. -/
def ofEnums (types : List String) (enums : List EnumType) (options : Options) : List String :=
  if options.qualifiesEnums then
    types.filterMap fun t =>
      let base := withoutList t
      if (enums.map (·.name)).contains base then some (options.enumImport base) else none
  else []

def ofTypes (types : List String) (enums : List EnumType) (options : Options) : List String :=
  types.flatMap ofType ++ ofEnums types enums options

/-- The imports of an entity. -/
def ofEntity (fields : List Field) (relationships : List Relationship) (enums : List EnumType)
    (options : Options) : List String :=
  NameSet.ofList <|
    ofTypes (fields.map (·.resolvedType)) enums options ++
      if fields.any (·.isCollection) || relationships.any (·.isCollection) then
        [listImport, arrayListImport, collectionsImport]
      else []

/-- The imports of a value object. -/
def ofValueObject (fields : List Field) (enums : List EnumType) (options : Options) :
    List String :=
  NameSet.ofList <|
    ofTypes (fields.map (·.resolvedType)) enums options ++
      if fields.any (·.isCollection) then [listImport, arrayListImport] else []

def ofParameters (types : List String) (enums : List EnumType) (options : Options) : List String :=
  NameSet.ofList (ofTypes types enums options)

def ofConstraints (fields : List Field) : List String :=
  if fields.any fun f => !f.constraintAnnotations.isEmpty then [constraintImport] else []

end DomainCompiler.Model.Imports

import DomainCompiler.Model.Imports

/-!
# Resolved entities

An entity has its declared fields followed by the fields that its audit settings add, and its
declared relationships followed by the inverse ones.
-/

namespace DomainCompiler.Model

open DomainCompiler.Naming

/-- The effective audit settings. -/
structure Audit where
  enabled : Bool
  trackUser : Bool
  deriving DecidableEq, Repr

namespace Audit

def timestampFields : List String := ["createdAt", "updatedAt"]

def userFields : List String := ["createdBy", "updatedBy"]

def allFields : List String := timestampFields ++ userFields

/-- The names and types of the fields that the settings add, in order. -/
def addedFields (enabled trackUser : Bool) : List (String × String) :=
  if enabled then
    timestampFields.map (·, "LocalDateTime") ++
      if trackUser then userFields.map (·, "String") else []
  else []

/-- The settings of an entity; users cannot be recorded without the times. -/
def resolve (e : Declared.Entity) : Except ResolveError Audit :=
  if e.tracksUser && !e.auditEnabled then .error (.trackUserWithoutAudit e.name)
  else .ok ⟨e.auditEnabled, e.tracksUser⟩

def declarations (a : Audit) : List Declared.Field :=
  (addedFields a.enabled a.trackUser).map fun f => { name := f.1, type := f.2 }

end Audit

structure Entity where
  name : String
  fieldName : String
  tableName : String
  isRoot : Bool
  audit : Audit
  fields : List Field
  relationships : List Relationship
  /-- The enums that the fields declare themselves. -/
  enums : List EnumType
  requiredImports : List String
  validationImports : List String
  auditable : Bool
  deriving DecidableEq, Repr

namespace Entity

def idFieldName : String := "id"

def declaredFieldsOf (fields : List Field) : List Field :=
  fields.filter fun f => !f.isSynthetic

/-- The fields that creating and updating take: not the id, and nothing of the audit. -/
def commandFieldsOf (fields : List Field) : List Field :=
  fields.filter fun f =>
    f.name != idFieldName && !f.isSynthetic && !Audit.allFields.contains f.name

def declaredFields (e : Entity) : List Field := declaredFieldsOf e.fields

def commandFields (e : Entity) : List Field := commandFieldsOf e.fields

def constructorFields (e : Entity) : List Field := e.commandFields.filter fun f => !f.readOnly

def responseFields (e : Entity) : List Field := e.fields.filter fun f => !f.hidden

def idField? (e : Entity) : Option Field := e.fields.find? fun f => f.name == idFieldName

def relationship? (e : Entity) (fieldName : String) : Option Relationship :=
  e.relationships.find? fun r => r.fieldName == fieldName

def find? (name : String) (entities : List Entity) : Option Entity :=
  List.find? (fun e => e.name == name) entities

def defaultTable (name : String) : String := snake (plural name)

/-- The declared fields and those of the audit settings, resolved. -/
def resolvedFields (valueObjects : List String) (aggregateEnums : List EnumType) (suffix : String)
    (audit : Audit) (d : Declared.Entity) : List Field :=
  d.fields.map (Field.resolve valueObjects aggregateEnums suffix false) ++
    audit.declarations.map (Field.resolve valueObjects aggregateEnums suffix true)

/-- Puts an entity together from its audit settings and its own resolved relationships. -/
def assemble (valueObjects : List String) (aggregateEnums : List EnumType)
    (inverse : List (String × Relationship)) (options : Options) (d : Declared.Entity)
    (audit : Audit) (declared : List Relationship) : Entity :=
  let name := pascal d.name
  let fields := resolvedFields valueObjects aggregateEnums options.persistenceSuffix audit d
  let relationships := Relationship.merge declared (Relationship.inverseOf name inverse)
  let enums := EnumType.inlineOf d.fields
  { name
    fieldName := camel d.name
    tableName := (d.tableName.filter (!·.isEmpty)).getD (defaultTable d.name)
    isRoot := d.isRoot
    audit
    fields
    relationships
    enums
    requiredImports := Imports.ofEntity fields relationships (enums ++ aggregateEnums) options
    validationImports := Imports.ofConstraints (commandFieldsOf fields)
    auditable := d.auditable == some true }

/-- Resolves an entity, given the inverse sides on the classes of its aggregate. -/
def resolve (valueObjects : List String) (aggregateEnums : List EnumType)
    (inverse : List (String × Relationship)) (options : Options) (d : Declared.Entity) :
    Except ResolveError Entity := do
  let audit ← Audit.resolve d
  let declared ←
    d.relationships.mapM (Relationship.resolve (pascal d.name) options.persistenceSuffix)
  return assemble valueObjects aggregateEnums inverse options d audit declared

end Entity

end DomainCompiler.Model

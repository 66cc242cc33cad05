import DomainCompiler.Declared.Basic
import DomainCompiler.Schema.Decoder

/-!
# The schema of descriptions

How declarations are read from values. Keys are spelled in camel case; the names in snake case and
some older spellings are read too.
-/

namespace DomainCompiler.Declared

open DomainCompiler.Schema

/-- A number as it is, `true` and `false` as one and zero, a text as it is. -/
def readBound : Decoder Bound
  | .int n => .accepted (.int n)
  | .bool b => .accepted (.int (if b then 1 else 0))
  | .float x => .accepted (.float x)
  | .text s => .accepted (.text s)
  | .bytes bs =>
    match textOfBytes? bs with
    | some s =>
      match (intOfText s).value?, floatOfText? s with
      | some n, _ => .accepted (.int n)
      | none, some x => .accepted (.float x)
      | none, none => .accepted (.text s)
    | none =>
      .rejected [⟨[.key "int"], .unreadableInt⟩, ⟨[.key "float"], .unreadableNumber⟩,
        ⟨[.key "str"], .bytesNotText⟩]
  | _ =>
    .rejected [⟨[.key "int"], .notInt⟩, ⟨[.key "float"], .notNumber⟩, ⟨[.key "str"], .notText⟩]

namespace Constraint

def kindKey : Key := ⟨"type", "kind"⟩
def messageKey : Key := .single "message"
def valueKey : Key := .single "value"
def minKey : Key := .single "min"
def maxKey : Key := .single "max"
def regexpKey : Key := .single "regexp"
def integerKey : Key := .single "integer"
def fractionKey : Key := .single "fraction"
def inclusiveKey : Key := .single "inclusive"

def keys : List Key :=
  [kindKey, messageKey, valueKey, minKey, maxKey, regexpKey, integerKey, fractionKey, inclusiveKey]

def read : Decoder Constraint :=
  record "ValidationRule" keys fun r =>
    mk <$> kindKey.required nonemptyText r
      <*> messageKey.optional (nullable text) none r
      <*> valueKey.optional (nullable readBound) none r
      <*> minKey.optional (nullable readBound) none r
      <*> maxKey.optional (nullable readBound) none r
      <*> regexpKey.optional (nullable text) none r
      <*> integerKey.optional (nullable int) none r
      <*> fractionKey.optional (nullable int) none r
      <*> inclusiveKey.optional (nullable bool) none r

end Constraint

def descriptionKey : Key := .single "description"

def readDescription (r : List (Value × Value)) : Checked (Option String) :=
  descriptionKey.optional (nullable text) none r

def nameKey : Key := .single "name"

def fieldsKey : Key := .single "fields"

namespace Field

def typeKey : Key := .single "type"
def enumValuesKey : Key := ⟨"enumValues", "enum_values"⟩
def isValueObjectKey : Key := ⟨"isValueObject", "is_value_object"⟩
def isEmbeddedKey : Key := ⟨"isEmbedded", "is_embedded"⟩
def readOnlyKey : Key := ⟨"readOnly", "read_only"⟩
def hiddenKey : Key := .single "hidden"
def constraintsKey : Key := .single "validations"
def annotationsKey : Key := .single "annotations"

def keys : List Key :=
  [nameKey, typeKey, enumValuesKey, isValueObjectKey, isEmbeddedKey, readOnlyKey, hiddenKey,
    constraintsKey, annotationsKey, descriptionKey]

def read : Decoder Field :=
  record "FieldDefinition" keys fun r =>
    mk <$> nameKey.required nonemptyText r
      <*> typeKey.required nonemptyText r
      <*> enumValuesKey.optional (nullable (list text)) none r
      <*> isValueObjectKey.optional bool false r
      <*> isEmbeddedKey.optional bool false r
      <*> readOnlyKey.optional bool false r
      <*> hiddenKey.optional bool false r
      <*> constraintsKey.optional (list Constraint.read) [] r
      <*> annotationsKey.optional (list text) [] r
      <*> readDescription r

end Field

namespace Transition

def sourcesKey : Key := ⟨"from", "from_states"⟩
def targetKey : Key := .single "to"

def keys : List Key := [sourcesKey, targetKey]

def readSources : Decoder (List String)
  | .text s => .accepted [s]
  | v => nonemptyTuple text v

def read : Decoder Transition :=
  record "Transition" keys fun r =>
    mk <$> sourcesKey.required readSources r
      <*> targetKey.required nonemptyText r

end Transition

namespace EnumType

def valuesKey : Key := .single "values"
def transitionsKey : Key := .single "transitions"
def initialValueKey : Key := ⟨"initialValue", "initial_value"⟩

def keys : List Key := [nameKey, valuesKey, transitionsKey, initialValueKey, descriptionKey]

def read : Decoder EnumType :=
  record "EnumDefinition" keys fun r =>
    mk <$> nameKey.required nonemptyText r
      <*> valuesKey.required (nonemptyList text) r
      <*> transitionsKey.optional (nullable (list Transition.read)) none r
      <*> initialValueKey.optional (nullable text) none r
      <*> readDescription r

end EnumType

namespace Audit

def enabledKey : Key := .single "enabled"
def trackUserKey : Key := ⟨"trackUser", "track_user"⟩

def keys : List Key := [enabledKey, trackUserKey]

def read : Decoder Audit :=
  record "AuditSettings" keys fun r =>
    mk <$> enabledKey.optional (fun v => (strictBool v).map some) none r
      <*> trackUserKey.optional strictBool false r

end Audit

namespace Relationship

def kindKey : Key := .single "type"
def targetKey : Key := .single "target"
def mappedByKey : Key := ⟨"mappedBy", "mapped_by"⟩
def joinColumnKey : Key := ⟨"joinColumn", "join_column"⟩
def cascadeKey : Key := .single "cascade"
def fetchKey : Key := .single "fetch"

def keys : List Key :=
  [kindKey, targetKey, mappedByKey, joinColumnKey, cascadeKey, fetchKey, descriptionKey]

def readKind : Decoder RelationshipKind :=
  oneOf (RelationshipKind.all.map fun k => (k.name, k))

def readFetch : Decoder FetchMode :=
  oneOf (FetchMode.all.map fun m => (m.name, m))

/-- `targetEntity` is an older spelling of `target`. -/
def read : Decoder Relationship := fun v =>
  (foldSpelling "target" "targetEntity" v).andThen <|
    record "RelationshipDefinition" keys fun r =>
      mk <$> kindKey.required readKind r
        <*> targetKey.optional (nullable nonemptyText) none r
        <*> mappedByKey.optional (nullable nonemptyText) none r
        <*> joinColumnKey.optional (nullable nonemptyText) none r
        <*> cascadeKey.optional (list text) [] r
        <*> fetchKey.optional readFetch .lazy r
        <*> readDescription r

end Relationship

namespace Entity

def isRootKey : Key := ⟨"isRoot", "is_root"⟩
def tableNameKey : Key := ⟨"tableName", "table_name"⟩
def auditKey : Key := .single "audit"
def auditableKey : Key := .single "auditable"
def relationshipsKey : Key := .single "relationships"

def keys : List Key :=
  [nameKey, isRootKey, tableNameKey, auditKey, auditableKey, fieldsKey, relationshipsKey,
    descriptionKey]

/-- `properties` is an older spelling of `fields`. -/
def read : Decoder Entity := fun v =>
  (foldSpelling "fields" "properties" v).andThen <|
    record "EntityDefinition" keys fun r =>
      mk <$> nameKey.required nonemptyText r
        <*> isRootKey.optional strictBool false r
        <*> tableNameKey.optional (nullable nonemptyText) none r
        <*> auditKey.optional (nullable Audit.read) none r
        <*> auditableKey.optional (nullable strictBool) none r
        <*> fieldsKey.optional (list Field.read) [] r
        <*> relationshipsKey.optional (list Relationship.read) [] r
        <*> readDescription r

end Entity

namespace Method

def returnTypeKey : Key := ⟨"returnType", "return_type"⟩
def parametersKey : Key := .single "parameters"
def bodyKey : Key := .single "body"

def keys : List Key := [nameKey, returnTypeKey, parametersKey, bodyKey]

def readBody : Decoder String := fun v =>
  (text v).map fun s => String.ofList (Text.strip s.toList)

def read : Decoder Method :=
  record "MethodDefinition" keys fun r =>
    mk <$> nameKey.required nonemptyText r
      <*> returnTypeKey.optional text "void" r
      <*> parametersKey.optional (list anything) [] r
      <*> bodyKey.optional readBody "" r

end Method

namespace ValueObject

def methodsKey : Key := .single "methods"
def validationKey : Key := .single "validation"

def keys : List Key := [nameKey, fieldsKey, methodsKey, validationKey, descriptionKey]

/-- `properties` is an older spelling of `fields`. -/
def read : Decoder ValueObject := fun v =>
  (foldSpelling "fields" "properties" v).andThen <|
    record "ValueObjectDefinition" keys fun r =>
      mk <$> nameKey.required nonemptyText r
        <*> fieldsKey.optional (list Field.read) [] r
        <*> methodsKey.optional (list Method.read) [] r
        <*> validationKey.optional (list anything) [] r
        <*> readDescription r

end ValueObject

namespace Aggregate

def packageKey : Key := .single "package"
def entitiesKey : Key := .single "entities"
def valueObjectsKey : Key := ⟨"valueObjects", "value_objects"⟩
def enumsKey : Key := .single "enums"

def keys : List Key :=
  [nameKey, packageKey, entitiesKey, valueObjectsKey, enumsKey, descriptionKey]

def read : Decoder Aggregate :=
  record "AggregateDefinition" keys fun r =>
    mk <$> nameKey.required nonemptyText r
      <*> packageKey.optional (nullable text) none r
      <*> entitiesKey.optional (list Entity.read) [] r
      <*> valueObjectsKey.optional (list ValueObject.read) [] r
      <*> enumsKey.optional (list EnumType.read) [] r
      <*> readDescription r

end Aggregate

namespace Document

def aggregatesKey : Key := .single "aggregates"

def keys : List Key := [aggregatesKey]

def read : Decoder Document :=
  record "DomainDescription" keys fun r =>
    mk <$> aggregatesKey.required (list Aggregate.read) r

end Document

end DomainCompiler.Declared
